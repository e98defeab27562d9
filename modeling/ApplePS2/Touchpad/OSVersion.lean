import ApplePS2.WhileLoop
import Mathlib.Data.List.TakeWhile

/- How the touchpad driver finds the version of the system in the registry's string
   (`detectOSXVersion`): "Darwin Kernel Version 13.0.0: ...".

   1. `scan_spec`: the loop ends for every string and reads nothing behind it; what it
      writes, and where.
   2. `parses_iff`: the writes stay in the buffer and the number is the version's exactly as
      long as the fourth word fits the buffer and its number eight bits. -/
namespace ApplePS2

open WhileLoop

/-- The characters of a string in front of its terminating zero. -/
structure CString where
  text : List UInt8
  terminated : 0 ∉ text

/-! The loop. -/

structure VersionScan where
  /-- The position in the string. -/
  iokitbuildStr : Nat
  index : Nat
  strCount : Nat
  /-- The eight bytes; a write behind them changes none. -/
  buildVerString : List UInt8
  goesOn : Bool
  /-- The positions of the string that have been read. -/
  reads : List Nat
  /-- The indexes of the buffer that have been written. -/
  writes : List Nat

namespace VersionScan

def start : VersionScan :=
  { iokitbuildStr := 0, index := 0, strCount := 0, buildVerString := List.replicate 8 0, goesOn := true
    reads := [], writes := [] }

def write (c : UInt8) (s : VersionScan) : VersionScan :=
  { s with buildVerString := s.buildVerString.set s.index c, writes := s.writes ++ [s.index] }

/-- `while (*iokitbuildStr++)` -/
def advance (c : UInt8) (s : VersionScan) : VersionScan :=
  { s with iokitbuildStr := s.iokitbuildStr + 1, goesOn := c != 0 }

/-- "Look for word terminators": a space, the end and a colon. -/
def terminates (c : UInt8) : Bool := c == 0x20 || c == 0 || c == 0x3A

/-- "Found ":" then we reached end of Darwin kernel version string" -/
def close (c : UInt8) (s : VersionScan) : VersionScan := if c = 0x3A then s.write 0 else s

/-- The end of the fourth word leaves the loop, every other one continues with its test. -/
def endWord (c : UInt8) (s : VersionScan) : VersionScan :=
  let s := s.close c
  let s := { s with index := 0, strCount := s.strCount + 1 }
  if s.strCount = 4 then { s with goesOn := false } else s.advance c

/-- "Next is version" -/
def copy (c : UInt8) (s : VersionScan) : VersionScan :=
  if s.strCount = 3 then { s.write c with index := s.index + 1 } else s

/-- The turn looks at one character, several times. -/
def look (s : VersionScan) : VersionScan := { s with reads := s.reads ++ [s.iokitbuildStr] }

def turn (text : List UInt8) (s : VersionScan) : VersionScan :=
  let c := text.getD s.iokitbuildStr 0
  if terminates c then s.look.endWord c else (s.look.copy c).advance c

end VersionScan

/-- What the loop leaves and the number of its turns. -/
def CString.scan (s : CString) : Option (VersionScan × Nat) :=
  whileLoop (·.goesOn) (VersionScan.turn s.text) (s.text.length + 1) .start

/-! The number. -/

/-- In the C locale. -/
def isspace (c : UInt8) : Bool := c == 0x20 || (0x09 ≤ c && c ≤ 0x0D)

def isdigit (c : UInt8) : Bool := 0x30 ≤ c && c ≤ 0x39

def decimal (digits : List UInt8) : Nat := digits.foldl (fun n c => 10 * n + (c - 0x30).toNat) 0

def optionalSign : List UInt8 → Bool × List UInt8
  | c :: rest => if c = 0x2D then (true, rest) else if c = 0x2B then (false, rest) else (false, c :: rest)
  | [] => (false, [])

/-- To the base 10; `none` where nothing in the array ends the number, so that bytes behind it
    are read. Eight bytes cannot hold a number out of range. -/
def strtol (bytes : List UInt8) : Option Int :=
  let (negative, rest) := optionalSign (bytes.dropWhile isspace)
  let digits := rest.takeWhile isdigit
  if digits.length = rest.length then none else some (if negative then -decimal digits else decimal digits)

/-- `UInt8 osxVersion = strtol(buildVerString, NULL, 10)` -/
def VersionScan.osxVersion (s : VersionScan) : Option UInt8 := (strtol s.buildVerString).map UInt8.ofInt

/-- "Subtract 4 from darwin kernel version to get OS X version" -/
def CString.detectOSXVersion (s : CString) : Option UInt8 :=
  s.scan.bind fun r => r.1.osxVersion.map fun v => if v > 4 then v - 4 else v

/-! Words, and what the buffer holds of one. -/

open VersionScan (terminates)

def word (text : List UInt8) : List UInt8 := text.takeWhile fun c => !terminates c

/-- A word's end is a colon. -/
def endsInColon (text : List UInt8) : Bool := (text.dropWhile fun c => !terminates c).head? == some 0x3A

/-- The text behind its first words, if it has so many with an end. -/
def behind : Nat → List UInt8 → Option (List UInt8)
  | 0, text => some text
  | _ + 1, [] => none
  | k + 1, c :: text => if terminates c then behind k text else behind (k + 1) text

/-- How many writes a word takes. -/
def writesOf (text : List UInt8) : Nat := (word text).length + if endsInColon text then 1 else 0

/-- The buffer once a word has been copied into it. -/
def stored (w : List UInt8) : List UInt8 := w.take 8 ++ List.replicate (8 - w.length) 0

theorem length_stored (w : List UInt8) : (stored w).length = 8 := by
  simp only [stored, List.length_append, List.length_take, List.length_replicate]
  omega

theorem stored_of_lt {w : List UInt8} (h : w.length < 8) : stored w = w ++ 0 :: List.replicate (7 - w.length) 0 := by
  have hlen : 8 - w.length = (7 - w.length) + 1 := by omega
  rw [stored, List.take_of_length_le (by omega), hlen, List.replicate_succ]

theorem stored_of_le {w : List UInt8} (h : 8 ≤ w.length) : stored w = w.take 8 := by
  have hlen : 8 - w.length = 0 := by omega
  rw [stored, hlen]
  exact List.append_nil _

theorem stored_set (w : List UInt8) (c : UInt8) : (stored w).set w.length c = stored (w ++ [c]) := by
  by_cases h : w.length < 8
  · have hlen : 7 - w.length = 8 - (w ++ [c]).length := by
      rw [List.length_append]
      show 7 - w.length = 8 - (w.length + 1)
      omega
    have htake : (w ++ [c]).take 8 = w ++ [c] := by
      apply List.take_of_length_le
      rw [List.length_append]
      show w.length + 1 ≤ 8
      omega
    calc (stored w).set w.length c = (w ++ 0 :: List.replicate (7 - w.length) 0).set w.length c := by rw [stored_of_lt h]
      _ = w ++ c :: List.replicate (7 - w.length) 0 := by
          rw [List.set_append_right _ _ (Nat.le_refl _), Nat.sub_self, List.set_cons_zero]
      _ = stored (w ++ [c]) := by rw [stored, htake, ← hlen, List.append_assoc, List.singleton_append]
  · have hle : 8 ≤ w.length := Nat.not_lt.1 h
    have hlen : 8 ≤ (w ++ [c]).length := Nat.le_trans hle (List.length_append ▸ Nat.le_add_right _ _)
    rw [List.set_eq_of_length_le (by rw [length_stored]; exact hle), stored_of_le hle, stored_of_le hlen,
      List.take_append_of_le_length hle]

/-- The zero behind a word is there already. -/
theorem stored_set_zero (w : List UInt8) : (stored w).set w.length 0 = stored w := by
  by_cases h : w.length < 8
  · rw [stored_of_lt h, List.set_append_right _ _ (Nat.le_refl _), Nat.sub_self, List.set_cons_zero]
  · apply List.set_eq_of_length_le
    rw [length_stored]
    exact Nat.not_lt.1 h

theorem word_end {c : UInt8} {rest : List UInt8} (h : terminates c = true) : word (c :: rest) = [] := by
  rw [word, List.takeWhile_cons_of_neg]
  rw [h]
  exact Bool.false_ne_true

theorem word_char {c : UInt8} {rest : List UInt8} (h : terminates c = false) : word (c :: rest) = c :: word rest := by
  rw [word, List.takeWhile_cons_of_pos]
  · rfl
  · rw [h]
    rfl

theorem writesOf_end {c : UInt8} {rest : List UInt8} (h : terminates c = true) :
    writesOf (c :: rest) = if c = 0x3A then 1 else 0 := by
  have hend : endsInColon (c :: rest) = decide (c = 0x3A) := by
    rw [endsInColon, List.dropWhile_cons_of_neg]
    · rfl
    · rw [h]
      exact Bool.false_ne_true
  rw [writesOf, word_end h, hend]
  simp only [List.length_nil, Nat.zero_add, decide_eq_true_eq]

theorem writesOf_char {c : UInt8} {rest : List UInt8} (h : terminates c = false) :
    writesOf (c :: rest) = writesOf rest + 1 := by
  have hend : endsInColon (c :: rest) = endsInColon rest := by
    rw [endsInColon, List.dropWhile_cons_of_pos]
    · rfl
    · rw [h]
      rfl
  rw [writesOf, word_char h, hend, List.length_cons, writesOf]
  omega

/-! What the loop leaves. -/

namespace VersionScan

variable {text : List UInt8} {s t : VersionScan} {fuel : Nat}

/-- The loop ends within so many turns, and in such a state. -/
def Leaves (text : List UInt8) (fuel : Nat) (s : VersionScan) (P : VersionScan → Prop) : Prop :=
  ∃ t n, whileLoop (·.goesOn) (turn text) fuel s = some (t, n) ∧ P t

theorem leaves_stop {P : VersionScan → Prop} (h : s.goesOn = false) (hP : P s) : Leaves text fuel s P :=
  ⟨s, 0, whileLoop_stop h fuel, hP⟩

theorem leaves_turn {P : VersionScan → Prop} (h : s.goesOn = true) (hrest : Leaves text fuel (s.turn text) P) :
    Leaves text (fuel + 1) s P := by
  obtain ⟨t, n, hloop, hP⟩ := hrest
  refine ⟨t, n + 1, ?_, hP⟩
  rw [whileLoop_turn h, hloop]
  rfl

theorem Leaves.mono {P Q : VersionScan → Prop} (h : Leaves text fuel s P) (hPQ : ∀ t, P t → Q t) : Leaves text fuel s Q := by
  obtain ⟨t, n, hloop, hP⟩ := h
  exact ⟨t, n, hloop, hPQ t hP⟩

/-- The scan stands in front of `rest`. -/
structure Before (text rest : List UInt8) (s : VersionScan) : Prop where
  rest : text.drop s.iokitbuildStr = rest
  inside : s.iokitbuildStr ≤ text.length
  goesOn : s.goesOn = true

theorem Before.char {c : UInt8} {rest : List UInt8} (h : Before text (c :: rest) s) : text.getD s.iokitbuildStr 0 = c := by
  have hc : text[s.iokitbuildStr]? = some c := by
    rw [← List.head?_drop, h.rest]
    rfl
  rw [List.getD_eq_getElem?_getD, hc]
  rfl

theorem Before.last (h : Before text [] s) : text.getD s.iokitbuildStr 0 = 0 := by
  have hlen : text.length ≤ s.iokitbuildStr := List.drop_eq_nil_iff.1 h.rest
  rw [List.getD_eq_getElem?_getD, List.getElem?_eq_none hlen]
  rfl

theorem Before.next {c : UInt8} {rest : List UInt8} (h : Before text (c :: rest) s) :
    text.drop (s.iokitbuildStr + 1) = rest ∧ s.iokitbuildStr + 1 ≤ text.length := by
  have hdrop : text.drop (s.iokitbuildStr + 1) = (text.drop s.iokitbuildStr).drop 1 := by rw [List.drop_drop]
  have hlen : (text.drop s.iokitbuildStr).length = rest.length + 1 := by rw [h.rest, List.length_cons]
  rw [List.length_drop] at hlen
  constructor
  · rw [hdrop, h.rest]
    rfl
  · omega

/-- Nothing has been read behind the terminating zero. -/
def ReadsInside (text : List UInt8) (s : VersionScan) : Prop := ∀ p ∈ s.reads, p ≤ text.length

theorem ReadsInside.look (h : ReadsInside text s) (hin : s.iokitbuildStr ≤ text.length) : ReadsInside text s.look := by
  intro p hp
  obtain hp | hp := List.mem_append.1 hp
  · exact h p hp
  · exact List.mem_singleton.1 hp ▸ hin

/-- `w` of the version has been copied. -/
structure Copying (w : List UInt8) (s : VersionScan) : Prop where
  strCount : s.strCount = 3
  index : s.index = w.length
  buffer : s.buildVerString = stored w

/-- While the version is copied: its characters, and a zero if a colon ends it, are written
    one behind the other. -/
structure Copied (text rest w : List UInt8) (s t : VersionScan) : Prop where
  reads : ReadsInside text t
  writes : ∀ i, i ∈ t.writes ↔ i ∈ s.writes ∨ (w.length ≤ i ∧ i < w.length + writesOf rest)
  buffer : t.buildVerString = stored (w ++ word rest)

theorem turn_end {c : UInt8} (hc : text.getD s.iokitbuildStr 0 = c) (h : terminates c = true) :
    s.turn text = s.look.endWord c := by
  unfold turn
  rw [hc]
  exact if_pos h

theorem turn_char {c : UInt8} (hc : text.getD s.iokitbuildStr 0 = c) (h : terminates c = false) :
    s.turn text = (s.look.copy c).advance c := by
  unfold turn
  rw [hc]
  exact if_neg (Bool.eq_false_iff.1 h)

@[simp] theorem close_strCount (c : UInt8) : (s.close c).strCount = s.strCount := by
  unfold close
  split
  · rfl
  · rfl

@[simp] theorem close_iokitbuildStr (c : UInt8) : (s.close c).iokitbuildStr = s.iokitbuildStr := by
  unfold close
  split
  · rfl
  · rfl

@[simp] theorem close_reads (c : UInt8) : (s.close c).reads = s.reads := by
  unfold close
  split
  · rfl
  · rfl

/-- Behind what has been copied a zero stands already. -/
theorem close_buildVerString {w : List UInt8} (hindex : s.index = w.length) (hbuffer : s.buildVerString = stored w)
    (c : UInt8) : (s.close c).buildVerString = stored w := by
  unfold close
  split
  · show s.buildVerString.set s.index 0 = stored w
    rw [hbuffer, hindex, stored_set_zero]
  · exact hbuffer

theorem mem_close_writes (c : UInt8) (i : Nat) : i ∈ (s.close c).writes ↔ i ∈ s.writes ∨ (c = 0x3A ∧ i = s.index) := by
  unfold close
  split
  · next hcolon =>
    show i ∈ s.writes ++ [s.index] ↔ _
    rw [List.mem_append, List.mem_singleton]
    simp only [hcolon, true_and]
  · next hother => simp only [hother, false_and, or_false]

/-- The end of the version leaves the loop. -/
theorem endWord_last (c : UInt8) (h : s.strCount = 3) :
    s.endWord c = { s.close c with index := 0, strCount := 4, goesOn := false } := by
  simp only [endWord, close_strCount, h, if_true]

/-- In front of the next word. -/
def nextWord (c : UInt8) (s : VersionScan) : VersionScan :=
  { s.close c with iokitbuildStr := s.iokitbuildStr + 1, index := 0, strCount := s.strCount + 1, goesOn := c != 0 }

/-- Every other end goes on with the loop's test. -/
theorem endWord_next (c : UInt8) (h : s.strCount ≠ 3) : s.endWord c = s.nextWord c := by
  have hcount : ¬ s.strCount + 1 = 4 := by omega
  simp only [endWord, nextWord, close_strCount, hcount, if_false, advance, close_iokitbuildStr]

theorem Copying.close {w : List UInt8} (h : Copying w s) (c : UInt8) : (s.close c).buildVerString = stored w :=
  close_buildVerString h.index h.buffer c

theorem Copying.copy {w : List UInt8} (h : Copying w s) (c : UInt8) : s.copy c = { s.write c with index := s.index + 1 } :=
  if_pos h.strCount

/-- One character more. -/
theorem Copying.next {w : List UInt8} (h : Copying w s) (c : UInt8) : Copying (w ++ [c]) ((s.copy c).advance c) := by
  rw [h.copy]
  exact {
    strCount := h.strCount
    index := by
      show s.index + 1 = (w ++ [c]).length
      rw [h.index, List.length_append]
      rfl
    buffer := by
      show s.buildVerString.set s.index c = stored (w ++ [c])
      rw [h.buffer, h.index, stored_set] }

/-- By induction on what is left of the string. -/
theorem leaves_copied {rest w : List UInt8} (hbefore : Before text rest s) (hreads : ReadsInside text s)
    (hcopying : Copying w s) : Leaves text (rest.length + 1) s (Copied text rest w s) := by
  induction rest generalizing s w with
  | nil =>
    -- the zero ends the loop, and nothing is written
    apply leaves_turn hbefore.goesOn
    rw [turn_end hbefore.last rfl, endWord_last 0 (s := s.look) hcopying.strCount]
    apply leaves_stop rfl
    exact {
      reads := hreads.look hbefore.inside
      writes := by
        intro i
        show i ∈ s.writes ↔ i ∈ s.writes ∨ (w.length ≤ i ∧ i < w.length + 0)
        exact (or_iff_left (by omega)).symm
      buffer := by
        show s.buildVerString = stored (w ++ [])
        rw [hcopying.buffer, List.append_nil] }
  | cons c rest ih =>
    apply leaves_turn hbefore.goesOn
    cases hterm : terminates c with
    -- the third word's end closes the version and the loop
    | true =>
      rw [turn_end hbefore.char hterm, endWord_last c (s := s.look) hcopying.strCount]
      apply leaves_stop rfl
      exact {
        reads := by
          show ∀ p ∈ (s.look.close c).reads, p ≤ text.length
          rw [close_reads]
          exact hreads.look hbefore.inside
        writes := by
          intro i
          have hindex : s.look.index = w.length := hcopying.index
          show i ∈ (s.look.close c).writes ↔ _
          rw [mem_close_writes, writesOf_end hterm, hindex]
          apply or_congr_right
          split
          · next hcolon =>
            simp only [hcolon, true_and]
            omega
          · next hother =>
            exact iff_of_false (fun h => hother h.1) (by omega)
        buffer := by
          rw [word_end hterm, List.append_nil]
          exact (Copying.mk hcopying.strCount hcopying.index hcopying.buffer : Copying w s.look).close c }
    -- the character is copied to the next index
    | false =>
      rw [turn_char hbefore.char hterm]
      have hlook : Copying w s.look := ⟨hcopying.strCount, hcopying.index, hcopying.buffer⟩
      have hc : (c != 0) = true := by
        rw [bne_iff_ne]
        rintro rfl
        exact absurd hterm (by decide)
      have hreads' : ReadsInside text ((s.look.copy c).advance c) := by
        rw [hlook.copy]
        exact hreads.look hbefore.inside
      have hbefore' : Before text rest ((s.look.copy c).advance c) := by
        rw [hlook.copy]
        exact ⟨hbefore.next.1, hbefore.next.2, hc⟩
      apply (ih hbefore' hreads' (hlook.next c)).mono
      intro t ht
      exact {
        reads := ht.reads
        writes := by
          intro i
          have hlen : (w ++ [c]).length = w.length + 1 := List.length_append
          have hindex : s.look.index = w.length := hcopying.index
          rw [ht.writes i, hlook.copy, hlen, writesOf_char hterm]
          show i ∈ s.writes ++ [s.look.index] ∨ _ ↔ _
          rw [hindex, List.mem_append, List.mem_singleton, or_assoc]
          apply or_congr_right
          omega
        buffer := by
          rw [ht.buffer, word_char hterm, List.append_assoc]
          rfl }

/-- `k + 1` words stand in front of the version. -/
structure Skipping (k : Nat) (s : VersionScan) : Prop where
  strCount : s.strCount + (k + 1) = 3
  index : s.index = 0
  buffer : s.buildVerString = stored []

/-- While the words in front of the version are counted: nothing is written but zeros at the
    first index, and then the version as above. -/
structure Skipped (text rest : List UInt8) (k : Nat) (s t : VersionScan) : Prop where
  reads : ReadsInside text t
  writes : ∀ i, 0 < i → (i ∈ t.writes ↔ i ∈ s.writes ∨ ∃ version, behind (k + 1) rest = some version ∧ i < writesOf version)
  buffer : t.buildVerString = stored ((behind (k + 1) rest).elim [] word)

theorem Skipping.copy {k : Nat} (h : Skipping k s) (c : UInt8) : s.copy c = s := by
  apply if_neg
  have hcount := h.strCount
  omega

/-- A character of a word that is counted. -/
theorem Skipping.turn_char {c : UInt8} {k : Nat} (h : Skipping k s) (hc : text.getD s.iokitbuildStr 0 = c)
    (hterm : terminates c = false) : s.turn text = s.look.advance c := by
  have hlook : Skipping k s.look := ⟨h.strCount, h.index, h.buffer⟩
  rw [VersionScan.turn_char hc hterm, hlook.copy]

/-- A word's end writes at most the first index. -/
theorem Skipping.mem_writes {k : Nat} (h : Skipping k s) (c : UInt8) {i : Nat} (hi : 0 < i) :
    i ∈ (s.look.close c).writes ↔ i ∈ s.writes := by
  rw [mem_close_writes]
  apply or_iff_left
  rintro ⟨-, hindex⟩
  exact absurd (hindex.trans h.index) (Nat.ne_of_gt hi)

theorem behind_end {c : UInt8} {rest : List UInt8} {k : Nat} (h : terminates c = true) :
    behind (k + 1) (c :: rest) = behind k rest := if_pos h

theorem behind_char {c : UInt8} {rest : List UInt8} {k : Nat} (h : terminates c = false) :
    behind (k + 1) (c :: rest) = behind (k + 1) rest := if_neg (Bool.eq_false_iff.1 h)

/-- By induction on what is left of the string: a word's end that is not the third's goes on
    with the next word, the third's with the version. -/
theorem leaves_skipped {rest : List UInt8} {k : Nat} (hbefore : Before text rest s) (hreads : ReadsInside text s)
    (hskipping : Skipping k s) (hz : 0 ∉ rest) : Leaves text (rest.length + 1) s (Skipped text rest k s) := by
  induction rest generalizing s k with
  | nil =>
    have hcount : s.look.strCount ≠ 3 := by
      have := hskipping.strCount
      show s.strCount ≠ 3
      omega
    -- the string ends in front of a version
    apply leaves_turn hbefore.goesOn
    rw [turn_end hbefore.last rfl, endWord_next 0 hcount]
    apply leaves_stop rfl
    exact {
      reads := hreads.look hbefore.inside
      writes := by
        intro i hi
        show i ∈ s.writes ↔ _
        refine (or_iff_left ?_).symm
        rintro ⟨version, hversion, -⟩
        exact absurd hversion (by simp [behind])
      buffer := hskipping.buffer }
  | cons c rest ih =>
    apply leaves_turn hbefore.goesOn
    have hc : (c != 0) = true := by
      rw [bne_iff_ne]
      rintro rfl
      exact hz List.mem_cons_self
    have hrest : 0 ∉ rest := fun h => hz (List.mem_cons_of_mem c h)
    cases hterm : terminates c with
    | true =>
      have hcount : s.look.strCount ≠ 3 := by
        have := hskipping.strCount
        show s.strCount ≠ 3
        omega
      have hbuffer : (s.look.nextWord c).buildVerString = stored [] :=
        close_buildVerString (s := s.look) (w := []) hskipping.index hskipping.buffer c
      have hreads' : ReadsInside text (s.look.nextWord c) := by
        show ∀ p ∈ (s.look.close c).reads, p ≤ text.length
        rw [close_reads]
        exact hreads.look hbefore.inside
      have hbefore' : Before text rest (s.look.nextWord c) := ⟨hbefore.next.1, hbefore.next.2, hc⟩
      rw [turn_end hbefore.char hterm, endWord_next c hcount]
      cases k with
      -- the version begins behind this word
      | zero =>
        apply (leaves_copied hbefore' hreads' ⟨hskipping.strCount, rfl, hbuffer⟩).mono
        intro t ht
        exact {
          reads := ht.reads
          writes := by
            intro i hi
            rw [ht.writes i, behind_end hterm]
            apply or_congr (hskipping.mem_writes c hi)
            simp [behind]
          buffer := by
            rw [ht.buffer, behind_end hterm, behind]
            rfl }
      -- one word fewer stands in front of it
      | succ k =>
        have hskipping' : Skipping k (s.look.nextWord c) := by
          refine ⟨?_, rfl, hbuffer⟩
          have := hskipping.strCount
          show s.strCount + 1 + (k + 1) = 3
          omega
        apply (ih hbefore' hreads' hskipping' hrest).mono
        intro t ht
        exact {
          reads := ht.reads
          writes := by
            intro i hi
            rw [ht.writes i hi, behind_end hterm]
            exact or_congr_left (hskipping.mem_writes c hi)
          buffer := by rw [ht.buffer, behind_end hterm] }
    -- a character of a word moves on, and nothing else
    | false =>
      have hbefore' : Before text rest (s.look.advance c) := ⟨hbefore.next.1, hbefore.next.2, hc⟩
      have hskipping' : Skipping k (s.look.advance c) := ⟨hskipping.strCount, hskipping.index, hskipping.buffer⟩
      rw [hskipping.turn_char hbefore.char hterm]
      apply (ih hbefore' (hreads.look hbefore.inside) hskipping' hrest).mono
      intro t ht
      exact {
        reads := ht.reads
        writes := by
          intro i hi
          rw [ht.writes i hi, behind_char hterm]
          rfl
        buffer := by rw [ht.buffer, behind_char hterm] }

end VersionScan

/-- The loop ends, and where it has read and written, for every string. -/
theorem CString.scan_spec (s : CString) : ∃ t n, s.scan = some (t, n) ∧ VersionScan.ReadsInside s.text t ∧
    (∀ i, 0 < i → (i ∈ t.writes ↔ ∃ version, behind 3 s.text = some version ∧ i < writesOf version)) ∧
    t.buildVerString = stored ((behind 3 s.text).elim [] word) := by
  have hbefore : VersionScan.Before s.text s.text .start := ⟨rfl, Nat.zero_le _, rfl⟩
  have hreads : VersionScan.ReadsInside s.text .start := fun p hp => absurd hp List.not_mem_nil
  have hskipping : VersionScan.Skipping 2 .start := ⟨rfl, rfl, rfl⟩
  obtain ⟨t, n, hloop, ht⟩ := VersionScan.leaves_skipped hbefore hreads hskipping s.terminated
  refine ⟨t, n, hloop, ht.reads, ?_, ht.buffer⟩
  intro i hi
  rw [ht.writes i hi]
  exact or_iff_right List.not_mem_nil

/-! The number. -/

/-- The digits at the start of a text. -/
def leading (text : List UInt8) : List UInt8 := text.takeWhile isdigit

theorem isdigit_iff (c : UInt8) : isdigit c = true ↔ 48 ≤ c.toNat ∧ c.toNat ≤ 57 := by
  rw [isdigit, Bool.and_eq_true, decide_eq_true_iff, decide_eq_true_iff, UInt8.le_iff_toNat_le, UInt8.le_iff_toNat_le]
  rfl

theorem ne_of_isdigit {c d : UInt8} (h : isdigit c = true) (hd : isdigit d = false) : c ≠ d := by
  rintro rfl
  exact absurd h (Bool.eq_false_iff.1 hd)

theorem isspace_of_isdigit {c : UInt8} (h : isdigit c = true) : isspace c = false := by
  have hc := (isdigit_iff c).1 h
  have hlast : ¬ c ≤ 0x0D := by
    rw [UInt8.le_iff_toNat_le]
    exact Nat.not_le.2 (Nat.lt_of_lt_of_le (by decide) hc.1)
  simp only [isspace, hlast, decide_false, Bool.and_false, Bool.or_false]
  exact beq_false_of_ne (ne_of_isdigit h rfl)

theorem terminates_of_isdigit {c : UInt8} (h : isdigit c = true) : terminates c = false := by
  simp only [terminates, beq_false_of_ne (ne_of_isdigit h (d := 0x20) rfl), beq_false_of_ne (ne_of_isdigit h (d := 0) rfl),
    beq_false_of_ne (ne_of_isdigit h (d := 0x3A) rfl), Bool.or_false]

theorem optionalSign_digit {c : UInt8} {rest : List UInt8} (h : isdigit c = true) :
    optionalSign (c :: rest) = (false, c :: rest) := by
  simp only [optionalSign, ne_of_isdigit h (d := 0x2D) rfl, ne_of_isdigit h (d := 0x2B) rfl, if_false]

/-- A number that begins at once, without a sign. -/
theorem strtol_leading {bytes : List UInt8} (h : leading bytes ≠ []) :
    strtol bytes = if (leading bytes).length = bytes.length then none else some (decimal (leading bytes) : Int) := by
  cases bytes with
  | nil => exact absurd rfl h
  | cons c rest =>
    have hdigit : isdigit c = true := by
      by_contra hc
      exact h (List.takeWhile_cons_of_neg hc)
    have hspace : (c :: rest).dropWhile isspace = c :: rest := by
      apply List.dropWhile_cons_of_neg
      rw [isspace_of_isdigit hdigit]
      exact Bool.false_ne_true
    rw [strtol, hspace, optionalSign_digit hdigit]
    rfl

theorem isdigit_of_mem_leading {text : List UInt8} {c : UInt8} (h : c ∈ leading text) : isdigit c = true :=
  List.mem_takeWhile_imp h

/-- What stands behind the digits does not begin with one. -/
theorem leading_append {digits rest : List UInt8} (hdigits : ∀ c ∈ digits, isdigit c = true) (hrest : leading rest = []) :
    leading (digits ++ rest) = digits := by
  rw [leading, List.takeWhile_append_of_pos hdigits]
  exact (congrArg (digits ++ ·) hrest).trans (List.append_nil _)

theorem leading_dropWhile (text : List UInt8) : leading (text.dropWhile isdigit) = [] := by
  cases hdrop : text.dropWhile isdigit with
  | nil => rfl
  | cons c rest =>
    apply List.takeWhile_cons_of_neg
    have hhead := List.head_dropWhile_not isdigit (l := text) (by rw [hdrop]; exact List.cons_ne_nil c rest)
    simp only [hdrop, List.head_cons] at hhead
    rw [hhead]
    exact Bool.false_ne_true

theorem leading_zeros (n : Nat) : leading (List.replicate n 0) = [] := by
  cases n with
  | zero => rfl
  | succ n => rfl

/-- Where no number begins, none does once the text is cut and followed by zeros. -/
theorem leading_cut {rest : List UInt8} (h : leading rest = []) (m n : Nat) :
    leading (rest.take m ++ List.replicate n 0) = [] := by
  cases rest with
  | nil => rw [List.take_nil, List.nil_append, leading_zeros]
  | cons c rest =>
    cases m with
    | zero => rw [List.take_zero, List.nil_append, leading_zeros]
    | succ m =>
      apply List.takeWhile_cons_of_neg
      intro hc
      rw [leading, List.takeWhile_cons_of_pos hc] at h
      exact List.cons_ne_nil _ _ h

theorem leading_append_dropWhile (text : List UInt8) : leading text ++ text.dropWhile isdigit = text :=
  List.takeWhile_append_dropWhile

/-- Of the copied word, eight bytes are left: a number that fills them has no end. -/
theorem strtol_stored {w : List UInt8} (h : leading w ≠ []) :
    strtol (stored w) = if (leading w).length ≤ 7 then some (decimal (leading w) : Int) else none := by
  have hw := leading_append_dropWhile w
  have hdigits : ∀ c ∈ leading w, isdigit c = true := fun c hc => isdigit_of_mem_leading hc
  split
  · next hshort =>
    have hstored : stored w = leading w ++
        ((w.dropWhile isdigit).take (8 - (leading w).length) ++ List.replicate (8 - w.length) 0) := by
      have htake : w.take 8 = leading w ++ (w.dropWhile isdigit).take (8 - (leading w).length) := by
        calc w.take 8 = (leading w ++ w.dropWhile isdigit).take 8 := by rw [hw]
          _ = (leading w).take 8 ++ (w.dropWhile isdigit).take (8 - (leading w).length) := List.take_append
          _ = leading w ++ (w.dropWhile isdigit).take (8 - (leading w).length) := by rw [List.take_of_length_le (by omega)]
      rw [stored, htake, List.append_assoc]
    have hleading : leading (stored w) = leading w := by
      rw [hstored]
      exact leading_append hdigits (leading_cut (leading_dropWhile w) _ _)
    have hne : ¬ (leading w).length = 8 := by omega
    rw [strtol_leading (by rw [hleading]; exact h), hleading, length_stored, if_neg hne]
  · next hlong =>
    have hlen : (leading w).length ≤ w.length := List.IsPrefix.length_le (List.takeWhile_prefix isdigit)
    have hstored : stored w = (leading w).take 8 := by
      rw [stored_of_le (by omega)]
      calc w.take 8 = (leading w ++ w.dropWhile isdigit).take 8 := by rw [hw]
        _ = (leading w).take 8 := List.take_append_of_le_length (by omega)
    have hleading : leading (stored w) = stored w := by
      rw [hstored]
      exact List.takeWhile_eq_self_iff.2 fun c hc => hdigits c (List.mem_of_mem_take hc)
    have hne : leading (stored w) ≠ [] := by
      rw [hleading]
      intro hnil
      exact absurd (hnil ▸ length_stored w) (by decide)
    rw [strtol_leading hne, if_pos (congrArg List.length hleading)]

/-! The version. -/

theorem behind_word {w rest : List UInt8} {c : UInt8} {k : Nat} (hw : ∀ d ∈ w, terminates d = false)
    (hc : terminates c = true) : behind (k + 1) (w ++ c :: rest) = behind k rest := by
  induction w with
  | nil => exact VersionScan.behind_end hc
  | cons d w ih =>
    obtain ⟨hd, hrest⟩ := List.forall_mem_cons.1 hw
    calc behind (k + 1) (d :: (w ++ c :: rest)) = behind (k + 1) (w ++ c :: rest) := VersionScan.behind_char hd
      _ = behind k rest := ih hrest

/-- The digits of a text are in its first word. -/
theorem leading_word (text : List UInt8) : leading (word text) = leading text := by
  have hboth : (fun c => decide (isdigit c = true ∧ (!terminates c) = true)) = isdigit := by
    funext c
    cases hc : isdigit c with
    | true => simp [terminates_of_isdigit hc]
    | false => simp
  rw [leading, word, List.takeWhile_takeWhile, hboth]
  rfl

/-- A text is closed by a colon: the digits at its start are in front of it. -/
theorem leading_colon (version rest : List UInt8) : leading (version ++ 0x3A :: rest) = leading version := by
  induction version with
  | nil => rfl
  | cons c version ih =>
    cases hc : isdigit c with
    | true =>
      calc leading (c :: (version ++ 0x3A :: rest)) = c :: leading (version ++ 0x3A :: rest) := List.takeWhile_cons_of_pos hc
        _ = c :: leading version := by rw [ih]
        _ = leading (c :: version) := (List.takeWhile_cons_of_pos hc).symm
    | false =>
      have hno : ¬ isdigit c = true := Bool.eq_false_iff.1 hc
      exact (List.takeWhile_cons_of_neg hno).trans (List.takeWhile_cons_of_neg hno).symm

namespace CString

variable {s : CString} {version : List UInt8}

/-- Three words, a space and a version text up to a colon. -/
def IsVersion (s : CString) (version : List UInt8) : Prop :=
  ∃ first second third rest : List UInt8, (∀ w ∈ [first, second, third], ∀ c ∈ w, terminates c = false) ∧
    0x3A ∉ version ∧ s.text = first ++ 0x20 :: (second ++ 0x20 :: (third ++ 0x20 :: (version ++ 0x3A :: rest)))

/-- What is asked of the function: its loop ends, reads only the string and its terminating
    zero, writes only the buffer, and the number is the one at the start of the version. -/
def Parses (s : CString) : Prop :=
  ∃ t n, s.scan = some (t, n) ∧ (∀ p ∈ t.reads, p ≤ s.text.length) ∧ (∀ i ∈ t.writes, i < 8) ∧
    ∀ version, s.IsVersion version → leading version ≠ [] →
      t.osxVersion.map UInt8.toNat = some (decimal (leading version))

/-- The fourth word fits the buffer, with the zero that a colon adds, and the number at the
    start of a version leaves a byte of it and fits eight bits. -/
structure Fits (s : CString) : Prop where
  word : ∀ rest, behind 3 s.text = some rest → (word rest).length ≤ 7 ∨ ((word rest).length = 8 ∧ endsInColon rest = false)
  number : ∀ version, s.IsVersion version → leading version ≠ [] →
    (leading version).length ≤ 7 ∧ decimal (leading version) ≤ 255

theorem IsVersion.behind (h : s.IsVersion version) : ∃ rest, ApplePS2.behind 3 s.text = some rest ∧ leading rest = leading version := by
  obtain ⟨first, second, third, rest, hwords, -, htext⟩ := h
  refine ⟨version ++ 0x3A :: rest, ?_, leading_colon version rest⟩
  rw [htext, behind_word (hwords first (by simp)) rfl, behind_word (hwords second (by simp)) rfl,
    behind_word (hwords third (by simp)) rfl, ApplePS2.behind]

theorem writes_iff (rest : List UInt8) :
    (∀ i, i < writesOf rest → i < 8) ↔ (ApplePS2.word rest).length ≤ 7 ∨ ((ApplePS2.word rest).length = 8 ∧ endsInColon rest = false) := by
  have hle : (∀ i, i < writesOf rest → i < 8) ↔ writesOf rest ≤ 8 := by
    constructor
    · intro h
      by_contra hlong
      exact absurd (h 8 (Nat.not_le.1 hlong)) (Nat.lt_irrefl 8)
    · intro h i hi
      exact Nat.lt_of_lt_of_le hi h
  rw [hle, writesOf]
  cases endsInColon rest with
  | true =>
    simp only [if_true, reduceCtorEq, and_false, or_false]
    omega
  | false =>
    simp only [Bool.false_eq_true, if_false, and_true]
    omega

theorem ofInt_toNat (n : Nat) : (UInt8.ofInt n).toNat = n % 256 := by
  have hmod : ((n : Int) % 2 ^ 8).toNat = n % 256 := by omega
  calc (UInt8.ofInt n).toNat = (UInt8.ofNat ((n : Int) % 2 ^ 8).toNat).toNat := rfl
    _ = n % 256 % 256 := by rw [hmod, UInt8.toNat_ofNat']
    _ = n % 256 := Nat.mod_mod n 256

/-- What becomes of the number at the start of the fourth word. -/
theorem osxVersion_stored {t : VersionScan} {rest : List UInt8} (hbuffer : t.buildVerString = stored (ApplePS2.word rest))
    (h : leading rest ≠ []) : t.osxVersion.map UInt8.toNat =
      if (leading rest).length ≤ 7 then some (decimal (leading rest) % 256) else none := by
  have hword : leading (ApplePS2.word rest) = leading rest := leading_word rest
  rw [VersionScan.osxVersion, hbuffer, strtol_stored (by rw [hword]; exact h), hword]
  split
  · exact congrArg some (ofInt_toNat _)
  · rfl

theorem number_iff {t : VersionScan} {rest : List UInt8} (hbuffer : t.buildVerString = stored (ApplePS2.word rest))
    (h : leading rest ≠ []) : t.osxVersion.map UInt8.toNat = some (decimal (leading rest)) ↔
      (leading rest).length ≤ 7 ∧ decimal (leading rest) ≤ 255 := by
  rw [osxVersion_stored hbuffer h]
  split
  · next hshort =>
    rw [Option.some_inj]
    omega
  · next hlong => exact iff_of_false (by simp) fun hfits => hlong hfits.1

/-- Only the fourth word can be written behind the buffer. -/
theorem writesInside_iff {t : VersionScan}
    (hwrites : ∀ i, 0 < i → (i ∈ t.writes ↔ ∃ version, ApplePS2.behind 3 s.text = some version ∧ i < writesOf version)) :
    (∀ i ∈ t.writes, i < 8) ↔ ∀ rest, ApplePS2.behind 3 s.text = some rest →
      (ApplePS2.word rest).length ≤ 7 ∨ ((ApplePS2.word rest).length = 8 ∧ endsInColon rest = false) := by
  constructor
  · intro h rest hrest
    apply (writes_iff rest).1
    intro i hi
    cases i with
    | zero => decide
    | succ i => exact h (i + 1) ((hwrites (i + 1) (Nat.succ_pos i)).2 ⟨rest, hrest, hi⟩)
  · intro h i hi
    cases i with
    | zero => decide
    | succ i =>
      obtain ⟨rest, hrest, hlt⟩ := (hwrites (i + 1) (Nat.succ_pos i)).1 hi
      exact (writes_iff rest).2 (h rest hrest) (i + 1) hlt

theorem parses_iff (s : CString) : s.Parses ↔ s.Fits := by
  obtain ⟨t, n, hloop, hreads, hwrites, hbuffer⟩ := s.scan_spec
  have hword := writesInside_iff hwrites
  have hnumber : ∀ version, s.IsVersion version → leading version ≠ [] →
      (t.osxVersion.map UInt8.toNat = some (decimal (leading version)) ↔
        (leading version).length ≤ 7 ∧ decimal (leading version) ≤ 255) := by
    intro version hversion hleading
    obtain ⟨rest, hrest, hsame⟩ := hversion.behind
    rw [← hsame] at hleading ⊢
    apply number_iff _ hleading
    rw [hbuffer, hrest]
    rfl
  constructor
  · rintro ⟨t', n', hloop', -, hwrites', hnumber'⟩
    obtain ⟨rfl, rfl⟩ := Prod.mk.inj (Option.some.inj (hloop.symm.trans hloop'))
    exact ⟨hword.1 hwrites', fun version hversion hleading => (hnumber version hversion hleading).1 (hnumber' version hversion hleading)⟩
  · intro hfits
    exact ⟨t, n, hloop, hreads, hword.2 hfits.word,
      fun version hversion hleading => (hnumber version hversion hleading).2 (hfits.number version hversion hleading)⟩

/-- "Darwin Kernel Version 10.0.0d1: " -/
def developerKernel : CString :=
  { text := [68, 97, 114, 119, 105, 110, 32, 75, 101, 114, 110, 101, 108, 32, 86, 101, 114, 115, 105, 111, 110, 32,
      49, 48, 46, 48, 46, 48, 100, 49, 58, 32]
    terminated := by decide }

/-- The zero behind eight characters is written behind the buffer. -/
theorem developerKernel_overflows :
    (developerKernel.scan.map fun r => r.1.writes) = some [0, 1, 2, 3, 4, 5, 6, 7, 8] ∧ ¬ developerKernel.Parses := by
  have hwrites : (developerKernel.scan.map fun r => r.1.writes) = some [0, 1, 2, 3, 4, 5, 6, 7, 8] := by decide +kernel
  refine ⟨hwrites, ?_⟩
  rintro ⟨t, n, hloop, -, hinside, -⟩
  have ht : t.writes = [0, 1, 2, 3, 4, 5, 6, 7, 8] := by
    rw [hloop] at hwrites
    exact Option.some.inj hwrites
  exact absurd (hinside 8 (by rw [ht]; decide)) (Nat.lt_irrefl 8)

/-- A Darwin version is the system's, four higher. -/
theorem detectOSXVersion_of_fits (hfits : s.Fits) (hversion : s.IsVersion version) (hleading : leading version ≠ [])
    (hfour : 4 < decimal (leading version)) :
    s.detectOSXVersion.map UInt8.toNat = some (decimal (leading version) - 4) := by
  obtain ⟨t, n, hloop, -, -, hbuffer⟩ := s.scan_spec
  obtain ⟨rest, hrest, hsame⟩ := hversion.behind
  obtain ⟨hshort, hbyte⟩ := hfits.number version hversion hleading
  have hnumber : t.osxVersion.map UInt8.toNat = some (decimal (leading version)) := by
    rw [← hsame] at hleading hshort hbyte ⊢
    apply (number_iff _ hleading).2 ⟨hshort, hbyte⟩
    rw [hbuffer, hrest]
    rfl
  obtain ⟨v, hv, hdecimal⟩ := Option.map_eq_some_iff.1 hnumber
  have hbig : (4 : UInt8) < v := UInt8.lt_iff_toNat_lt.2 (hdecimal ▸ hfour)
  calc s.detectOSXVersion.map UInt8.toNat = some (v - 4).toNat := by
        rw [detectOSXVersion, hloop]
        show ((t.osxVersion.map _).map UInt8.toNat) = _
        rw [hv]
        exact congrArg (fun x : UInt8 => some x.toNat) (if_pos hbig)
    _ = some (decimal (leading version) - 4) := by
        rw [UInt8.toNat_sub_of_le _ _ (UInt8.le_of_lt hbig), hdecimal]
        rfl

end CString

end ApplePS2
