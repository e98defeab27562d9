import ApplePS2.Keyboard.Combinations

/- The loop of `ProcessKeyCombinations` over a zero-terminated string: the bytes it
   writes and the keys it dispatches, token by token.

   1. `scan_tokens`: the loop over the characters runs token by token.
   2. `combKeyCode_copied`: a token that fits the buffer is compared as it was copied.
   3. `tokenLoop_right_iff`: from the start of a token, the loop stays in the buffer and
      dispatches the keys named exactly when each token it reads fits and abbreviates no
      name.
   4. `combinationString_right_iff`: the same for the whole string. -/
namespace ApplePS2

/-- `'\0'`. -/
def NUL : Char := Char.ofNat 0

/-- A zero-terminated string: its characters before the zero. -/
structure KeyString where
  chars : List Char
  noNul : NUL ∉ chars

/-- A call of `dispatchKeyboardKeyCode` by the loop, with the number of the token it is for. -/
structure TokenEvent where
  token : Nat
  code : UInt8
  goingDown : Bool
  deriving DecidableEq, Repr

/-- The locals of the loop. `key` is the memory from the start of the buffer, so that a
write behind its fifth byte is seen (what it does to the other locals is not modelled);
`written` holds the indexes of the copied characters. -/
structure TokenBuffer where
  key : Nat → Char
  k : Nat
  l : Nat
  token : Nat
  written : List Nat
  sent : List TokenEvent

namespace TokenBuffer

/-- `key[i] = NULL` for the five bytes of the buffer. -/
def cleared (key : Nat → Char) : Nat → Char := fun i => if i < 5 then NUL else key i

/-- `char key[5] = {NULL}`, on a stack that holds `memory`. -/
def start (memory : Nat → Char) : TokenBuffer := ⟨cleared memory, 0, 0, 0, [], []⟩

/-- `!strncmp(key, name, strlen(key))`, from the `i`-th byte on. -/
def startsName (key : Nat → Char) : List Char → Nat → Bool
  | [], i => key i = NUL
  | c :: name, i => key i = NUL || (key i = c && startsName key name (i + 1))

def combKeyCode (t : TokenBuffer) : UInt8 :=
  if t.k = 1 then Keyboard.ADBCodeForKeyChar (t.key 0)
  else ((Keyboard.combinationNames.find? fun p => startsName t.key p.1.toList 0).map Prod.snd).getD DEADKEY

/-- `key[k] = *keys; k++`. -/
def copy (t : TokenBuffer) (c : Char) : TokenBuffer :=
  { t with key := Function.update t.key t.k c, k := t.k + 1, written := t.written ++ [t.k] }

def dispatch (goingDown : Bool) (t : TokenBuffer) : TokenBuffer :=
  { t with l := t.l + 1, sent := t.sent ++ [⟨t.token, t.combKeyCode, goingDown⟩] }

/-- `k = 0` and the key cleared. -/
def clear (t : TokenBuffer) : TokenBuffer := { t with k := 0, key := cleared t.key, token := t.token + 1 }

/-- The loop; at the end of the list `keys` stands on the zero. -/
def scan (goingDown : Bool) : List Char → TokenBuffer → TokenBuffer
  | [], t =>
    if t.combKeyCode ≠ DEADKEY then
      if t.l + 1 = 3 then t.dispatch goingDown else (t.dispatch goingDown).clear
    else t.clear
  | c :: keys, t =>
    if c = ' ' then
      if t.combKeyCode ≠ DEADKEY then
        if t.l + 1 = 3 then t.dispatch goingDown else scan goingDown keys (t.dispatch goingDown).clear
      else scan goingDown keys t.clear
    else scan goingDown keys (t.copy c)

end TokenBuffer

/-- What the loop does with a string. -/
def KeyString.scanned (keys : KeyString) (memory : Nat → Char) (goingDown : Bool) : TokenBuffer :=
  .scan goingDown keys.chars (.start memory)

/-! What a string should do. -/

/-- The key a token names: a character known to `ADBCodeForKeyChar`, or one of the names. -/
def keyNamed : List Char → Option UInt8
  | [c] => Keyboard.letterCodes.lookup c
  | token => Keyboard.combinationNames.lookup (String.ofList token)

def KeyString.tokens (keys : KeyString) : List (List Char) := keys.chars.splitOnP (· = ' ')

/-- The events of the first `n` of the tokens that name a key; the first token is the `i`-th. -/
def namedEvents (goingDown : Bool) (n i : Nat) (tokens : List (List Char)) : List TokenEvent :=
  ((tokens.zipIdx i).filterMap fun p => (keyNamed p.1).map fun code => ⟨p.2, code, goingDown⟩).take n

/-- The tokens up to the `n`-th that names a key. -/
def readTokens : Nat → List (List Char) → List (List Char)
  | 0, _ => []
  | _ + 1, [] => []
  | n + 1, token :: tokens => token :: readTokens (if (keyNamed token).isSome then n else n + 1) tokens

/-- A start of one of the names that is no name itself; the empty token is one. -/
def abbreviates (token : List Char) : Prop :=
  token.length ≠ 1 ∧ keyNamed token = none ∧ ∃ p ∈ Keyboard.combinationNames, token <+: p.1.toList

/-- The loop stays within the buffer and dispatches the keys that the first three
tokens with a key name, so that the two calls press and release the same keys. -/
structure KeyString.Right (keys : KeyString) (memory : Nat → Char) : Prop where
  inBuffer : ∀ goingDown, ∀ i ∈ (keys.scanned memory goingDown).written, i < 5
  dispatched : ∀ goingDown, (keys.scanned memory goingDown).sent = namedEvents goingDown 3 0 keys.tokens
  samePairs : (keys.scanned memory true).sent.map TokenEvent.code =
    (keys.scanned memory false).sent.map TokenEvent.code

/-! The loop runs token by token. -/

namespace TokenBuffer

/-- The loop over the tokens of a string. -/
def tokenLoop (goingDown : Bool) : List (List Char) → TokenBuffer → TokenBuffer
  | [], t => t
  | token :: tokens, t =>
    let t := token.foldl copy t
    if t.combKeyCode ≠ DEADKEY then
      if t.l + 1 = 3 then t.dispatch goingDown else tokenLoop goingDown tokens (t.dispatch goingDown).clear
    else tokenLoop goingDown tokens t.clear

theorem tokenLoop_copy (goingDown : Bool) (c : Char) {tokens : List (List Char)} (h : tokens ≠ [])
    (t : TokenBuffer) : tokenLoop goingDown (tokens.modifyHead (List.cons c)) t = tokenLoop goingDown tokens (t.copy c) := by
  cases tokens with
  | nil => exact absurd rfl h
  | cons token tokens => rfl

theorem scan_tokens (goingDown : Bool) (keys : List Char) (t : TokenBuffer) :
    scan goingDown keys t = tokenLoop goingDown (keys.splitOnP (· = ' ')) t := by
  induction keys generalizing t with
  | nil => rfl
  | cons c keys ih =>
    rw [List.splitOnP_cons_eq_if_modifyHead]
    by_cases hc : c = ' '
    · rw [if_pos (decide_eq_true hc), scan, if_pos hc, ih, ih]
      rfl
    · simp only [scan, hc, decide_false, if_false, Bool.false_eq_true]
      rw [tokenLoop_copy _ _ (List.splitOnP_ne_nil _ _), ih]

/-! One token. -/

/-- Between two tokens: nothing is copied, and the five bytes are zero. -/
structure Fresh (t : TokenBuffer) : Prop where
  k : t.k = 0
  key : ∀ i, i < 5 → t.key i = NUL

theorem fresh_start (memory : Nat → Char) : (start memory).Fresh where
  k := rfl
  key := fun _ hi => if_pos hi

theorem fresh_clear (t : TokenBuffer) : t.clear.Fresh where
  k := rfl
  key := fun _ hi => if_pos hi

/-- The characters of a token, behind those copied before. -/
theorem copied (token : List Char) (t : TokenBuffer) :
    (token.foldl copy t).k = t.k + token.length ∧ (token.foldl copy t).l = t.l ∧
    (token.foldl copy t).token = t.token ∧ (token.foldl copy t).sent = t.sent ∧
    (token.foldl copy t).written = t.written ++ List.range' t.k token.length ∧
    ∀ i, (token.foldl copy t).key i =
      if t.k ≤ i then (token[i - t.k]?).getD (t.key i) else t.key i := by
  induction token generalizing t with
  | nil => simp
  | cons c token ih =>
    obtain ⟨hk, hl, htoken, hsent, hwritten, hkey⟩ := ih (t.copy c)
    refine ⟨?_, hl, htoken, hsent, ?_, ?_⟩
    · rw [List.foldl_cons, hk, List.length_cons]
      show t.k + 1 + token.length = t.k + (token.length + 1)
      omega
    · rw [List.foldl_cons, hwritten, List.length_cons, List.range'_succ]
      show t.written ++ [t.k] ++ List.range' (t.k + 1) token.length = _
      rw [List.append_assoc, List.singleton_append]
    · intro i
      rw [List.foldl_cons, hkey]
      show (if t.k + 1 ≤ i then (token[i - (t.k + 1)]?).getD (Function.update t.key t.k c i)
        else Function.update t.key t.k c i) = _
      rcases Nat.lt_trichotomy i t.k with hi | hi | hi
      · rw [if_neg (by omega), if_neg (by omega), Function.update_of_ne (by omega)]
      · subst hi
        rw [if_neg (by omega), if_pos (Nat.le_refl _), Function.update_self, Nat.sub_self]
        rfl
      · rw [if_pos (by omega), if_pos (by omega), Function.update_of_ne (by omega)]
        have hsub : i - t.k = (i - (t.k + 1)) + 1 := by omega
        rw [hsub, List.getElem?_cons_succ]

/-- What the buffer holds when a token that fits is copied into it. -/
theorem key_copied {token : List Char} {t : TokenBuffer} (ht : t.Fresh) {i : Nat} (hi : i < 5) :
    (token.foldl copy t).key i = (token[i]?).getD NUL := by
  rw [(copied token t).2.2.2.2.2 i, ht.k, if_pos (Nat.zero_le i), Nat.sub_zero, ht.key i hi]

/-- The comparison with a name, for a token whose bytes the buffer holds. -/
theorem startsName_copied {key : Nat → Char} {token : List Char} (hnul : NUL ∉ token) :
    ∀ (name : List Char) (i : Nat), (∀ j, i ≤ j → j ≤ i + name.length → key j = (token[j]?).getD NUL) →
      startsName key name i = (token.drop i).isPrefixOf name := by
  intro name
  induction name with
  | nil =>
    intro i hkey
    have hi : key i = (token[i]?).getD NUL := hkey i (Nat.le_refl i) (Nat.le_add_right i _)
    by_cases hlt : i < token.length
    · have hne : token[i] ≠ NUL := fun h => hnul (h ▸ List.getElem_mem hlt)
      rw [List.getElem?_eq_getElem hlt, Option.getD_some] at hi
      rw [List.drop_eq_getElem_cons hlt, startsName, hi, decide_eq_false hne]
      rfl
    · rw [List.getElem?_eq_none (by omega), Option.getD_none] at hi
      rw [List.drop_eq_nil_of_le (by omega), startsName, hi, decide_eq_true rfl]
      rfl
  | cons c name ih =>
    intro i hkey
    have hi : key i = (token[i]?).getD NUL := hkey i (Nat.le_refl i) (Nat.le_add_right i _)
    have hrest := ih (i + 1) fun j hj hle => hkey j (by omega) (by rw [List.length_cons]; omega)
    by_cases hlt : i < token.length
    · have hne : token[i] ≠ NUL := fun h => hnul (h ▸ List.getElem_mem hlt)
      rw [List.getElem?_eq_getElem hlt, Option.getD_some] at hi
      rw [List.drop_eq_getElem_cons hlt, startsName, hi, hrest, decide_eq_false hne, Bool.false_or]
      rfl
    · rw [List.getElem?_eq_none (by omega), Option.getD_none] at hi
      rw [List.drop_eq_nil_of_le (by omega), startsName, hi, decide_eq_true rfl]
      rfl

/-- The names are shorter than the buffer. -/
theorem name_length {p : String × UInt8} (h : p ∈ Keyboard.combinationNames) : p.1.toList.length ≤ 4 := by
  revert p
  decide

/-- The code of a copied token is that of its characters. -/
theorem combKeyCode_copied {token : List Char} (hnul : NUL ∉ token) {t : TokenBuffer} (ht : t.Fresh) :
    (token.foldl copy t).combKeyCode = Keyboard.combKeyCode token := by
  have hk : (token.foldl copy t).k = token.length := by
    rw [(copied token t).1, ht.k, Nat.zero_add]
  have hnames : (Keyboard.combinationNames.find? fun p => startsName (token.foldl copy t).key p.1.toList 0) =
      Keyboard.combinationNames.find? fun p => Keyboard.startOf (String.ofList token) p.1 := by
    rw [← List.head?_filter, ← List.head?_filter]
    congr 1
    apply List.filter_congr
    intro p hp
    have hlength := name_length hp
    rw [Keyboard.startOf, String.toList_ofList]
    exact startsName_copied hnul p.1.toList 0 fun j _ hj => key_copied ht (by omega)
  match token, hk, hnames with
  | [c], hk, _ =>
    have hone : (List.foldl copy t [c]).k = 1 := hk
    rw [combKeyCode, if_pos hone, key_copied ht (by omega)]
    rfl
  | [], hk, hnames =>
    rw [combKeyCode, if_neg (by rw [hk]; decide), hnames]
    rfl
  | c :: d :: token, hk, hnames =>
    rw [combKeyCode, if_neg (by rw [hk, List.length_cons, List.length_cons]; omega), hnames]
    rfl

end TokenBuffer

/-! The code of a token beside the key it names. -/

theorem letterCode_ne_deadkey {c : Char} {code : UInt8} (h : Keyboard.letterCodes.lookup c = some code) :
    code ≠ DEADKEY := by
  obtain ⟨before, after, hsplit, -⟩ := List.lookup_eq_some_iff.1 h
  have hmem : (c, code) ∈ Keyboard.letterCodes := by rw [hsplit]; simp
  have hall : ∀ p ∈ Keyboard.letterCodes, p.2 ≠ DEADKEY := by decide
  exact hall _ hmem

/-- A name is not the start of another one before it, and no key has the code `DEADKEY`. -/
theorem combKeyCode_name {p : String × UInt8} (h : p ∈ Keyboard.combinationNames) :
    Keyboard.combKeyCode p.1.toList = p.2 ∧ p.2 ≠ DEADKEY := by
  revert p
  decide

theorem keyNamed_name {token : List Char} {code : UInt8} (hlength : token.length ≠ 1)
    (h : keyNamed token = some code) : ∃ p ∈ Keyboard.combinationNames, p.1.toList = token ∧ p.2 = code := by
  have hlookup : Keyboard.combinationNames.lookup (String.ofList token) = some code := by
    match token, hlength with
    | [], _ => exact h
    | _ :: _ :: _, _ => exact h
  obtain ⟨before, after, hsplit, -⟩ := List.lookup_eq_some_iff.1 hlookup
  exact ⟨(String.ofList token, code), by rw [hsplit]; simp, String.toList_ofList, rfl⟩

/-- The code of a token of another length than one is that of the first name it starts. -/
theorem combKeyCode_find {token : List Char} (hlength : token.length ≠ 1) :
    Keyboard.combKeyCode token =
      ((Keyboard.combinationNames.find? fun p => token.isPrefixOf p.1.toList).map Prod.snd).getD DEADKEY := by
  have hcode : Keyboard.combKeyCode token = ((Keyboard.combinationNames.find? fun p =>
      Keyboard.startOf (String.ofList token) p.1).map Prod.snd).getD DEADKEY := by
    match token, hlength with
    | [], _ => rfl
    | _ :: _ :: _, _ => rfl
  rw [hcode]
  simp only [Keyboard.startOf, String.toList_ofList]

theorem combKeyCode_abbreviates {token : List Char} (h : abbreviates token) :
    Keyboard.combKeyCode token ≠ DEADKEY := by
  obtain ⟨hlength, -, p, hp, hstart⟩ := h
  rw [combKeyCode_find hlength]
  cases hfind : Keyboard.combinationNames.find? fun p => token.isPrefixOf p.1.toList with
  | none =>
    have hnone := List.find?_eq_none.1 hfind p hp
    exact absurd (List.isPrefixOf_iff_prefix.2 hstart) hnone
  | some q => exact (combKeyCode_name (List.mem_of_find?_eq_some hfind)).2

/-- Unless a token abbreviates a name, it is given the code of the key it names. -/
theorem combKeyCode_named {token : List Char} (h : ¬abbreviates token) :
    Keyboard.combKeyCode token = (keyNamed token).getD DEADKEY := by
  by_cases hlength : token.length = 1
  · obtain ⟨c, rfl⟩ := List.length_eq_one_iff.1 hlength
    rfl
  · cases hnamed : keyNamed token with
    | some code =>
      obtain ⟨p, hp, rfl, rfl⟩ := keyNamed_name hlength hnamed
      exact (combKeyCode_name hp).1
    | none =>
      have hnone : Keyboard.combinationNames.find? (fun p => token.isPrefixOf p.1.toList) = none := by
        apply List.find?_eq_none.2
        intro p hp hstart
        exact h ⟨hlength, hnamed, p, hp, List.isPrefixOf_iff_prefix.1 hstart⟩
      rw [combKeyCode_find hlength, hnone]
      rfl

theorem keyNamed_ne_deadkey {token : List Char} {code : UInt8} (h : keyNamed token = some code) :
    code ≠ DEADKEY := by
  by_cases hlength : token.length = 1
  · obtain ⟨c, rfl⟩ := List.length_eq_one_iff.1 hlength
    exact letterCode_ne_deadkey h
  · obtain ⟨p, hp, -, rfl⟩ := keyNamed_name hlength h
    exact (combKeyCode_name hp).2

/-! The events a string should give, token by token. -/

theorem namedEvents_zero (goingDown : Bool) (i : Nat) (tokens : List (List Char)) :
    namedEvents goingDown 0 i tokens = [] := List.take_zero

theorem namedEvents_none (goingDown : Bool) (n i : Nat) {token : List Char} (h : keyNamed token = none)
    (tokens : List (List Char)) :
    namedEvents goingDown n i (token :: tokens) = namedEvents goingDown n (i + 1) tokens := by
  rw [namedEvents, List.zipIdx_cons, List.filterMap_cons_none (by rw [h]; rfl)]
  rfl

theorem namedEvents_some (goingDown : Bool) (n i : Nat) {token : List Char} {code : UInt8}
    (h : keyNamed token = some code) (tokens : List (List Char)) :
    namedEvents goingDown (n + 1) i (token :: tokens) =
      ⟨i, code, goingDown⟩ :: namedEvents goingDown n (i + 1) tokens := by
  rw [namedEvents, List.zipIdx_cons, List.filterMap_cons_some (by rw [h]; rfl), List.take_succ_cons]
  rfl

theorem namedEvents_token {goingDown : Bool} {n i : Nat} {tokens : List (List Char)} {e : TokenEvent}
    (h : e ∈ namedEvents goingDown n i tokens) : i ≤ e.token := by
  obtain ⟨⟨token, j⟩, hp, hevent⟩ := List.mem_filterMap.1 (List.mem_of_mem_take h)
  obtain ⟨code, -, rfl⟩ := Option.map_eq_some_iff.1 hevent
  exact List.le_snd_of_mem_zipIdx hp

theorem readTokens_zero (tokens : List (List Char)) : readTokens 0 tokens = [] := by
  cases tokens with
  | nil => rfl
  | cons token tokens => rfl

/-! The whole loop, from the start of a token. -/

/-- A token that stays in the buffer and is taken for no name but its own. -/
def goodToken (token : List Char) : Prop := token.length ≤ 5 ∧ ¬abbreviates token

namespace TokenBuffer

variable (goingDown : Bool)

/-- A token that names no key and is sent as none. -/
theorem tokenLoop_unsent {token : List Char} {t : TokenBuffer}
    (h : (token.foldl copy t).combKeyCode = DEADKEY) (tokens : List (List Char)) :
    tokenLoop goingDown (token :: tokens) t = tokenLoop goingDown tokens (token.foldl copy t).clear :=
  if_neg (not_not_intro h)

/-- A token that is sent: the third one ends the loop. -/
theorem tokenLoop_sent {token : List Char} {t : TokenBuffer}
    (h : (token.foldl copy t).combKeyCode ≠ DEADKEY) (tokens : List (List Char)) :
    tokenLoop goingDown (token :: tokens) t =
      if t.l + 1 = 3 then (token.foldl copy t).dispatch goingDown
      else tokenLoop goingDown tokens ((token.foldl copy t).dispatch goingDown).clear := by
  have hl : (token.foldl copy t).l = t.l := (copied token t).2.1
  rw [← hl]
  exact if_pos h

/-- The loop only adds to what is written and sent. -/
theorem tokenLoop_grows (tokens : List (List Char)) (t : TokenBuffer) :
    t.written <+: (tokenLoop goingDown tokens t).written ∧ t.sent <+: (tokenLoop goingDown tokens t).sent := by
  induction tokens generalizing t with
  | nil => exact ⟨List.prefix_rfl, List.prefix_rfl⟩
  | cons token tokens ih =>
    obtain ⟨-, -, -, hsent, hwritten, -⟩ := copied token t
    have hw : t.written <+: (token.foldl copy t).written := hwritten ▸ List.prefix_append _ _
    have hs : t.sent <+: (token.foldl copy t).sent := hsent ▸ List.prefix_rfl
    by_cases hcode : (token.foldl copy t).combKeyCode = DEADKEY
    · rw [tokenLoop_unsent goingDown hcode]
      have hrest := ih (token.foldl copy t).clear
      exact ⟨hw.trans hrest.1, hs.trans hrest.2⟩
    · have hs' : t.sent <+: ((token.foldl copy t).dispatch goingDown).sent := hs.trans (List.prefix_append _ _)
      rw [tokenLoop_sent goingDown hcode]
      split
      · exact ⟨hw, hs'⟩
      · have hrest := ih ((token.foldl copy t).dispatch goingDown).clear
        exact ⟨hw.trans hrest.1, hs'.trans hrest.2⟩

/-- A token longer than the buffer is written past its end. -/
theorem tokenLoop_long {token : List Char} {t : TokenBuffer} (ht : t.Fresh) (h : 5 < token.length)
    (tokens : List (List Char)) : 5 ∈ (tokenLoop goingDown (token :: tokens) t).written := by
  obtain ⟨-, -, -, -, hwritten, -⟩ := copied token t
  have hmem : 5 ∈ (token.foldl copy t).written := by
    rw [hwritten, ht.k]
    exact List.mem_append_right _ (List.mem_range'_1.2 (by omega))
  by_cases hcode : (token.foldl copy t).combKeyCode = DEADKEY
  · rw [tokenLoop_unsent goingDown hcode]
    exact (tokenLoop_grows goingDown tokens _).1.subset hmem
  · rw [tokenLoop_sent goingDown hcode]
    split
    · exact hmem
    · exact (tokenLoop_grows goingDown tokens _).1.subset hmem

/-- A token that abbreviates a name is sent. -/
theorem tokenLoop_abbreviates {token : List Char} (hnul : NUL ∉ token) (h : abbreviates token) {t : TokenBuffer}
    (ht : t.Fresh) (tokens : List (List Char)) :
    ∃ e : TokenEvent, e.token = t.token ∧ t.sent ++ [e] <+: (tokenLoop goingDown (token :: tokens) t).sent := by
  obtain ⟨-, -, htoken, hsent, -, -⟩ := copied token t
  have hcode : (token.foldl copy t).combKeyCode ≠ DEADKEY := by
    rw [combKeyCode_copied hnul ht]
    exact combKeyCode_abbreviates h
  refine ⟨⟨t.token, (token.foldl copy t).combKeyCode, goingDown⟩, rfl, ?_⟩
  have hdispatch : ((token.foldl copy t).dispatch goingDown).sent =
      t.sent ++ [⟨t.token, (token.foldl copy t).combKeyCode, goingDown⟩] := by
    rw [← hsent, ← htoken]
    rfl
  rw [tokenLoop_sent goingDown hcode, ← hdispatch]
  split
  · exact List.prefix_rfl
  · exact (tokenLoop_grows goingDown tokens ((token.foldl copy t).dispatch goingDown).clear).2

theorem tokenLoop_right_iff (tokens : List (List Char)) (hnul : ∀ token ∈ tokens, NUL ∉ token)
    (t : TokenBuffer) (ht : t.Fresh) (hl : t.l < 3) (hw : ∀ i ∈ t.written, i < 5) :
    ((∀ i ∈ (tokenLoop goingDown tokens t).written, i < 5) ∧
      (tokenLoop goingDown tokens t).sent = t.sent ++ namedEvents goingDown (3 - t.l) t.token tokens) ↔
    ∀ token ∈ readTokens (3 - t.l) tokens, goodToken token := by
  induction tokens generalizing t with
  | nil =>
    obtain ⟨n, hn⟩ : ∃ n, 3 - t.l = n + 1 := ⟨2 - t.l, by omega⟩
    rw [hn]
    exact iff_of_true ⟨hw, (List.append_nil _).symm⟩ (List.forall_mem_nil _)
  | cons token tokens ih =>
    obtain ⟨n, hn⟩ : ∃ n, 3 - t.l = n + 1 := ⟨2 - t.l, by omega⟩
    have htoken : NUL ∉ token := hnul token List.mem_cons_self
    have hrest : ∀ token ∈ tokens, NUL ∉ token := fun _ h => hnul _ (List.mem_cons_of_mem _ h)
    have hread : readTokens (n + 1) (token :: tokens) =
      token :: readTokens (if (keyNamed token).isSome then n else n + 1) tokens := rfl
    rw [hn, hread, List.forall_mem_cons]
    by_cases hgood : goodToken token
    · -- the token does what it should, and the rest follows from the state behind it
      rw [and_iff_right hgood]
      obtain ⟨hlength, habbreviates⟩ := hgood
      obtain ⟨-, hl', htok', hsent', hwritten', -⟩ := copied token t
      have hw' : ∀ i ∈ (token.foldl copy t).written, i < 5 := by
        intro i hi
        rw [hwritten', ht.k] at hi
        rcases List.mem_append.1 hi with h | h
        · exact hw i h
        · have := List.mem_range'_1.1 h
          omega
      have hcode : (token.foldl copy t).combKeyCode = (keyNamed token).getD DEADKEY := by
        rw [combKeyCode_copied htoken ht, combKeyCode_named habbreviates]
      cases hnamed : keyNamed token with
      | none =>
        rw [hnamed] at hcode
        have hnext := ih hrest (token.foldl copy t).clear (fresh_clear _)
          (show (token.foldl copy t).l < 3 by omega) hw'
        have hlnext : (token.foldl copy t).clear.l = t.l := hl'
        have htnext : (token.foldl copy t).clear.token = t.token + 1 := congrArg (· + 1) htok'
        have hsnext : (token.foldl copy t).clear.sent = t.sent := hsent'
        rw [hlnext, htnext, hsnext, hn] at hnext
        rw [tokenLoop_unsent goingDown hcode, namedEvents_none goingDown _ _ hnamed]
        exact hnext
      | some code =>
        rw [hnamed, Option.getD_some] at hcode
        have hdead : (token.foldl copy t).combKeyCode ≠ DEADKEY := by
          rw [hcode]
          exact keyNamed_ne_deadkey hnamed
        have hsdispatch : ((token.foldl copy t).dispatch goingDown).sent = t.sent ++ [⟨t.token, code, goingDown⟩] := by
          rw [← hsent', ← htok', ← hcode]
          rfl
        rw [tokenLoop_sent goingDown hdead, namedEvents_some goingDown _ _ hnamed]
        by_cases hthird : t.l + 1 = 3
        · have hzero : n = 0 := by omega
          rw [if_pos hthird, hzero, namedEvents_zero, Option.isSome_some, if_pos rfl, readTokens_zero]
          exact iff_of_true ⟨hw', hsdispatch⟩ (List.forall_mem_nil _)
        · have hnext := ih hrest ((token.foldl copy t).dispatch goingDown).clear (fresh_clear _)
            (show (token.foldl copy t).l + 1 < 3 by omega) hw'
          have hlnext : 3 - ((token.foldl copy t).dispatch goingDown).clear.l = n := by
            show 3 - ((token.foldl copy t).l + 1) = n
            omega
          have htnext : ((token.foldl copy t).dispatch goingDown).clear.token = t.token + 1 :=
            congrArg (· + 1) htok'
          have hsnext : ((token.foldl copy t).dispatch goingDown).clear.sent =
            t.sent ++ [⟨t.token, code, goingDown⟩] := hsdispatch
          rw [hlnext, htnext, hsnext, List.append_assoc] at hnext
          rw [if_neg hthird]
          exact hnext
    · -- the bytes or the events are wrong, whatever follows
      apply iff_of_false
      · rintro ⟨hbytes, hevents⟩
        by_cases hlength : token.length ≤ 5
        · have habbreviates : abbreviates token := Classical.not_not.1 fun h => hgood ⟨hlength, h⟩
          obtain ⟨e, he, hsent⟩ := tokenLoop_abbreviates goingDown htoken habbreviates ht tokens
          rw [hevents, List.prefix_append_right_inj, namedEvents_none goingDown _ _ habbreviates.2.1] at hsent
          have hlate := namedEvents_token (hsent.subset (List.mem_singleton_self e))
          omega
        · have hmem := hbytes 5 (tokenLoop_long goingDown ht (by omega) tokens)
          omega
      · exact fun h => hgood h.1

/-! The loop with a buffer, and the loop over the characters of a key. -/

theorem dispatch_codes {key : List Char} (hnul : NUL ∉ key) {t : TokenBuffer} (ht : t.Fresh) :
    ((key.foldl copy t).dispatch goingDown).sent.map TokenEvent.code =
      t.sent.map TokenEvent.code ++ [Keyboard.combKeyCode key] := by
  have hsent : (key.foldl copy t).sent = t.sent := (copied key t).2.2.2.1
  have hcode : (key.foldl copy t).combKeyCode = Keyboard.combKeyCode key := combKeyCode_copied hnul ht
  rw [dispatch, hsent, hcode, List.map_append]
  rfl

/-- The codes sent for the rest of a string, with the characters of `key` in the buffer. -/
theorem scan_codes (keys key : List Char) (t : TokenBuffer) (ht : t.Fresh) (hnul : NUL ∉ key ++ keys) :
    (scan goingDown keys (key.foldl copy t)).sent.map TokenEvent.code =
      t.sent.map TokenEvent.code ++ Keyboard.combinationCodes keys key t.l := by
  induction keys generalizing key t with
  | nil =>
    have hkey : NUL ∉ key := fun h => hnul (List.mem_append_left _ h)
    have hsent : (key.foldl copy t).sent = t.sent := (copied key t).2.2.2.1
    rw [scan, Keyboard.combinationCodes, combKeyCode_copied hkey ht]
    by_cases hcode : Keyboard.combKeyCode key ≠ DEADKEY
    · rw [if_pos hcode, if_pos hcode]
      split
      · exact dispatch_codes goingDown hkey ht
      · exact dispatch_codes goingDown hkey ht
    · rw [if_neg hcode, if_neg hcode, List.append_nil, ← hsent]
      rfl
  | cons c keys ih =>
    have hkey : NUL ∉ key := fun h => hnul (List.mem_append_left _ h)
    have hkeys : NUL ∉ [] ++ keys := fun h => hnul (List.mem_append_right _ (List.mem_cons_of_mem _ h))
    have hl : (key.foldl copy t).l = t.l := (copied key t).2.1
    have hsent : (key.foldl copy t).sent = t.sent := (copied key t).2.2.2.1
    rw [scan, Keyboard.combinationCodes, combKeyCode_copied hkey ht, hl]
    by_cases hc : c = ' '
    · rw [if_pos hc, if_pos hc]
      -- a blank ends the word: a key is dispatched, and the third one ends the loop
      by_cases hcode : Keyboard.combKeyCode key ≠ DEADKEY
      · rw [if_pos hcode, if_pos hcode]
        by_cases hthird : t.l + 1 = 3
        · rw [if_pos hthird, if_pos hthird]
          exact dispatch_codes goingDown hkey ht
        · have hrest := ih [] ((key.foldl copy t).dispatch goingDown).clear (fresh_clear _) hkeys
          have hlnext : ((key.foldl copy t).dispatch goingDown).clear.l = t.l + 1 := congrArg (· + 1) hl
          have hcodes : ((key.foldl copy t).dispatch goingDown).clear.sent.map TokenEvent.code =
            t.sent.map TokenEvent.code ++ [Keyboard.combKeyCode key] := dispatch_codes goingDown hkey ht
          rw [hlnext, hcodes, List.append_assoc] at hrest
          rw [if_neg hthird, if_neg hthird]
          exact hrest
      · have hrest := ih [] (key.foldl copy t).clear (fresh_clear _) hkeys
        have hlnext : (key.foldl copy t).clear.l = t.l := hl
        have hsnext : (key.foldl copy t).clear.sent = t.sent := hsent
        rw [hlnext, hsnext] at hrest
        rw [if_neg hcode, if_neg hcode]
        exact hrest
    · -- any other character joins the word
      have hrest := ih (key ++ [c]) t ht (by rw [List.append_assoc]; exact hnul)
      rw [List.foldl_append] at hrest
      rw [if_neg hc, if_neg hc]
      exact hrest

end TokenBuffer

namespace KeyString

/-- The codes of the loop do not depend on what lies behind the buffer. -/
theorem scanned_codes (keys : KeyString) (memory : Nat → Char) (goingDown : Bool) :
    (keys.scanned memory goingDown).sent.map TokenEvent.code = Keyboard.combinationCodes keys.chars [] 0 :=
  TokenBuffer.scan_codes goingDown keys.chars [] _ (TokenBuffer.fresh_start memory) keys.noNul

/-- `ProcessKeyCombinations` dispatches the events of the loop, between those of the shift key. -/
theorem ProcessKeyCombinations_scanned (keys : KeyString) (memory : Nat → Char) (w : World)
    (goingDown gesture : Bool) (s : Keyboard) :
    s.ProcessKeyCombinations w (some (String.ofList keys.chars)) goingDown gesture =
      (s.when (goingDown && !gesture) (Keyboard.dispatchKeyboardKeyCode w (s.normalCode 0x2a) false)
        |> Keyboard.dispatchAll w goingDown ((keys.scanned memory goingDown).sent.map TokenEvent.code)
        |> Keyboard.when (!goingDown && !gesture)
          (Keyboard.dispatchKeyboardKeyCode w (s.normalCode 0x2a) true)) := by
  rw [scanned_codes, Keyboard.ProcessKeyCombinations, String.toList_ofList]

theorem mem_of_mem_splitOnP (p : Char → Bool) {chars token : List Char} (h : token ∈ chars.splitOnP p) {c : Char}
    (hc : c ∈ token) : c ∈ chars := by
  induction chars generalizing token with
  | nil =>
    rw [List.splitOnP_nil, List.mem_singleton] at h
    exact h ▸ hc
  | cons d chars ih =>
    rw [List.splitOnP_cons_eq_if_modifyHead] at h
    obtain ⟨first, rest, hsplit⟩ := List.exists_cons_of_ne_nil (List.splitOnP_ne_nil p chars)
    rw [hsplit] at h ih
    by_cases hd : p d = true
    · rw [if_pos hd] at h
      rcases List.mem_cons.1 h with rfl | h
      · exact absurd hc List.not_mem_nil
      · exact List.mem_cons_of_mem _ (ih h hc)
    · rw [if_neg hd, List.modifyHead_cons] at h
      rcases List.mem_cons.1 h with rfl | h
      · rcases List.mem_cons.1 hc with rfl | hc
        · exact List.mem_cons_self
        · exact List.mem_cons_of_mem _ (ih List.mem_cons_self hc)
      · exact List.mem_cons_of_mem _ (ih (List.mem_cons_of_mem _ h) hc)

theorem combinationString_right_iff (keys : KeyString) (memory : Nat → Char) :
    keys.Right memory ↔ ∀ token ∈ readTokens 3 keys.tokens, goodToken token := by
  have hnul : ∀ token ∈ keys.tokens, NUL ∉ token :=
    fun _ htoken h => keys.noNul (mem_of_mem_splitOnP _ htoken h)
  have hscan : ∀ goingDown, (∀ i ∈ (keys.scanned memory goingDown).written, i < 5) ∧
      (keys.scanned memory goingDown).sent = namedEvents goingDown 3 0 keys.tokens ↔
      ∀ token ∈ readTokens 3 keys.tokens, goodToken token := by
    intro goingDown
    rw [scanned, TokenBuffer.scan_tokens]
    exact TokenBuffer.tokenLoop_right_iff goingDown keys.tokens hnul (.start memory)
      (TokenBuffer.fresh_start memory) (show 0 < 3 by decide) (List.forall_mem_nil _)
  constructor
  · intro h
    exact (hscan true).1 ⟨h.inBuffer true, h.dispatched true⟩
  · intro h
    exact {
      inBuffer := fun goingDown => ((hscan goingDown).2 h).1
      dispatched := fun goingDown => ((hscan goingDown).2 h).2
      samePairs := (keys.scanned_codes memory true).trans (keys.scanned_codes memory false).symm }

/-- Two spaces press Command twice. -/
def doubledSpace : KeyString := ⟨['C', 'M', 'D', ' ', ' ', 'Q'], by decide⟩

/-- A word of seven characters is copied over the bytes behind the buffer. -/
def longWord : KeyString := ⟨['C', 'O', 'M', 'M', 'A', 'N', 'D'], by decide⟩

theorem doubledSpace_longWord_not_right :
    ¬doubledSpace.Right (fun _ => NUL) ∧ ¬longWord.Right (fun _ => NUL) := by
  constructor
  · intro h
    have hsent : (doubledSpace.scanned (fun _ => NUL) true).sent =
      [⟨0, 0x36, true⟩, ⟨1, 0x36, true⟩, ⟨2, 0x0c, true⟩] := by decide
    exact absurd (hsent.symm.trans (h.dispatched true)) (by decide)
  · intro h
    exact absurd (h.inBuffer true 6 (by decide)) (by decide)

end KeyString

end ApplePS2
