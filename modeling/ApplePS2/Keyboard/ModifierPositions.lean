import ApplePS2.Keyboard.State
import ApplePS2.Transition

/- The positions of Command, Control and Alternate over a history of mapping lists
   (`readKeyboardModifiers`): are they those of the list read last?

   1. `position_mapModifiers`: one list, with at most one pair for each destination,
      moves the destinations it maps and leaves the others where they were.
   2. `follows_step`: the positions follow the list just read exactly when it is empty
      or leaves out no destination that the list before it had moved.
   3. `positions_follow_iff`: the same over every history. -/
namespace ApplePS2

/-- The modifiers that the driver keeps a position for. -/
inductive Destination where
  | command | control | alternate
  deriving DecidableEq, Repr

namespace Destination

def modifier : Destination → NXModifierKey
  | command => .COMMAND
  | control => .CONTROL
  | alternate => .ALTERNATE

def defaultPosition : Destination → UInt8
  | command => 0x5b
  | control => 0x1d
  | alternate => 0x38

end Destination

/-- The position a list gives a destination, when it maps it. -/
def mappedPosition (modifiers : List ModifierPair) (d : Destination) : Option UInt8 :=
  (modifiers.find? fun p => p.dst = d.modifier).map fun p => Keyboard.getModifiersPosition p.src

/-- The position a destination should have under a list. -/
def positionUnder (modifiers : List ModifierPair) (d : Destination) : UInt8 :=
  (mappedPosition modifiers d).getD d.defaultPosition

/-- No destination is mapped twice. -/
def OnePerDestination (modifiers : List ModifierPair) : Prop :=
  ∀ d : Destination, modifiers.countP (fun p => p.dst = d.modifier) ≤ 1

theorem OnePerDestination.tail {p : ModifierPair} {modifiers : List ModifierPair}
    (h : OnePerDestination (p :: modifiers)) : OnePerDestination modifiers := by
  intro d
  have hall := h d
  rw [List.countP_cons] at hall
  omega

theorem mappedPosition_cons (p : ModifierPair) (modifiers : List ModifierPair) (d : Destination) :
    mappedPosition (p :: modifiers) d =
      if p.dst = d.modifier then some (Keyboard.getModifiersPosition p.src) else mappedPosition modifiers d := by
  by_cases hp : p.dst = d.modifier
  · simp [mappedPosition, hp]
  · simp [mappedPosition, hp]

/-- Behind the pair that maps a destination there is no other. -/
theorem OnePerDestination.mapped_once {p : ModifierPair} {modifiers : List ModifierPair} {d : Destination}
    (h : OnePerDestination (p :: modifiers)) (hp : p.dst = d.modifier) : mappedPosition modifiers d = none := by
  have hall := h d
  rw [List.countP_cons, if_pos (decide_eq_true hp)] at hall
  have hrest : modifiers.countP (fun p => p.dst = d.modifier) = 0 := by omega
  have hnone : ∀ q ∈ modifiers, ¬decide (q.dst = d.modifier) = true := List.countP_eq_zero.1 hrest
  rw [mappedPosition, List.find?_eq_none.2 hnone]
  rfl

namespace Keyboard

def position (s : Keyboard) : Destination → UInt8
  | .command => s.commandKey
  | .control => s.contrlKey
  | .alternate => s.altkey

/-- The guard of `readKeyboardModifiers`: the last reading is long enough ago. -/
def modifiersDue (s : Keyboard) : Bool :=
  s.now - s.lastModifiersReadTime > MODIFIERS_STATUS_CHK_INTERVAL || s.lastModifiersReadTime == 0

theorem position_mapModifier (s : Keyboard) (p : ModifierPair) (d : Destination) :
    (s.mapModifier p).position d =
      if p.dst = d.modifier then getModifiersPosition p.src else s.position d := by
  obtain ⟨src, dst⟩ := p
  cases dst <;> cases d <;> rfl

/-- The loop over a list, by induction on it: a destination is assigned by its only pair. -/
theorem position_foldl {modifiers : List ModifierPair} (h : OnePerDestination modifiers) (s : Keyboard)
    (d : Destination) :
    (modifiers.foldl mapModifier s).position d = (mappedPosition modifiers d).getD (s.position d) := by
  induction modifiers generalizing s with
  | nil => rfl
  | cons p modifiers ih =>
    rw [List.foldl_cons, ih h.tail, position_mapModifier, mappedPosition_cons]
    by_cases hp : p.dst = d.modifier
    · rw [h.mapped_once hp, if_pos hp, if_pos hp]
      rfl
    · rw [if_neg hp, if_neg hp]

theorem position_mapModifiers {modifiers : List ModifierPair} (h : OnePerDestination modifiers) (s : Keyboard)
    (d : Destination) :
    (s.mapModifiers (some modifiers)).position d =
      if modifiers = [] then d.defaultPosition else (mappedPosition modifiers d).getD (s.position d) := by
  cases modifiers with
  | nil => cases d <;> rfl
  | cons p modifiers =>
    rw [if_neg (List.cons_ne_nil p modifiers)]
    exact position_foldl h s d

end Keyboard

/-- One call of `readKeyboardModifiers`: when it comes and what the mapping property
    holds then. -/
structure ModifierReading where
  now : UInt64
  world : World
  modifiers : List ModifierPair
  property : world.modifierMapping = some modifiers
  onePerDestination : OnePerDestination modifiers

/-- The driver, with the list it has read last. -/
structure ModifierHistory where
  keyboard : Keyboard
  current : List ModifierPair

namespace ModifierHistory

/-- The driver as `init` leaves it. -/
def init (prefs : Preferences) (maps : ADBMaps) : ModifierHistory :=
  { keyboard := Keyboard.init prefs maps, current := [] }

/-- The keyboard at the moment of a reading. -/
def atReading (h : ModifierHistory) (r : ModifierReading) : Keyboard := { h.keyboard with now := r.now }

/-- A reading that is throttled leaves the current list as it is. -/
def read (h : ModifierHistory) (r : ModifierReading) : ModifierHistory :=
  { keyboard := (h.atReading r).readKeyboardModifiers r.world
    current := if (h.atReading r).modifiersDue then r.modifiers else h.current }

/-- The positions are those under the current list alone. -/
def Follows (h : ModifierHistory) : Prop := ∀ d, h.keyboard.position d = positionUnder h.current d

/-- A reading that takes place finds the empty list, or a list without a gap: each
    destination it does not map has its default position under the list before it. -/
def LeavesNone (h : ModifierHistory) (r : ModifierReading) : Prop :=
  (h.atReading r).modifiersDue = true → r.modifiers = [] ∨
    ∀ d, mappedPosition r.modifiers d = none → positionUnder h.current d = d.defaultPosition

theorem init_follows (prefs : Preferences) (maps : ADBMaps) : (init prefs maps).Follows := by
  intro d
  cases d <;> rfl

theorem readKeyboardModifiers_due (w : World) {s : Keyboard} (h : s.modifiersDue = true) :
    s.readKeyboardModifiers w = { s.mapModifiers w.modifierMapping with lastModifiersReadTime := s.now } :=
  if_pos h

theorem readKeyboardModifiers_throttled (w : World) {s : Keyboard} (h : s.modifiersDue = false) :
    s.readKeyboardModifiers w = s :=
  if_neg (show ¬s.modifiersDue = true by rw [h]; exact Bool.false_ne_true)

/-- What a reading that takes place makes of a destination. -/
theorem position_read {h : ModifierHistory} {r : ModifierReading} (hdue : (h.atReading r).modifiersDue = true)
    (d : Destination) : (h.read r).keyboard.position d =
      if r.modifiers = [] then d.defaultPosition else (mappedPosition r.modifiers d).getD (h.keyboard.position d) := by
  have hread : (h.read r).keyboard.position d = ((h.atReading r).mapModifiers (some r.modifiers)).position d := by
    show ((h.atReading r).readKeyboardModifiers r.world).position d = _
    rw [readKeyboardModifiers_due r.world hdue, r.property]
    cases d <;> rfl
  have hbefore : (h.atReading r).position d = h.keyboard.position d := by
    cases d <;> rfl
  rw [hread, Keyboard.position_mapModifiers r.onePerDestination, hbefore]

theorem follows_step {h : ModifierHistory} (hfollows : h.Follows) (r : ModifierReading) :
    (h.read r).Follows ↔ h.LeavesNone r := by
  cases hdue : (h.atReading r).modifiersDue with
  -- too early for another reading
  | false =>
    have hsame : (h.read r).Follows := by
      intro d
      have hread : (h.read r).keyboard.position d = (h.atReading r).position d := by
        show ((h.atReading r).readKeyboardModifiers r.world).position d = _
        rw [readKeyboardModifiers_throttled r.world hdue]
      have hcurrent : (h.read r).current = h.current := by
        show (if (h.atReading r).modifiersDue then r.modifiers else h.current) = h.current
        rw [hdue]
        rfl
      rw [hread, hcurrent, ← hfollows d]
      cases d <;> rfl
    have hfree : h.LeavesNone r := by
      intro htrue
      rw [hdue] at htrue
      exact absurd htrue Bool.false_ne_true
    exact ⟨fun _ => hfree, fun _ => hsame⟩
  -- the list is read, and a destination that it does not map keeps its position
  | true =>
    have hcurrent : (h.read r).current = r.modifiers := by
      show (if (h.atReading r).modifiersDue then r.modifiers else h.current) = r.modifiers
      rw [hdue]
      rfl
    have hposition := fun d => position_read hdue d
    unfold Follows LeavesNone
    rw [hcurrent]
    constructor
    · intro hall _
      by_cases hempty : r.modifiers = []
      · exact .inl hempty
      · right
        intro d hd
        have hd' := hall d
        rw [hposition d, if_neg hempty, positionUnder, hd, hfollows d] at hd'
        exact hd'
    · intro hnone d
      rw [hposition d]
      rcases hnone hdue with hempty | hgaps
      · rw [if_pos hempty, hempty]
        rfl
      · cases hmapped : mappedPosition r.modifiers d with
        | some k =>
          have hne : r.modifiers ≠ [] := by
            intro hnil
            rw [hnil] at hmapped
            cases hmapped
          rw [if_neg hne, positionUnder, hmapped]
          rfl
        | none =>
          have hdefault : h.keyboard.position d = d.defaultPosition := by
            rw [hfollows d, hgaps d hmapped]
          rw [positionUnder, hmapped, Option.getD_none, Option.getD_none, hdefault, ite_self]

/-- Over a history of readings the positions are those under the list read last
    exactly when no list that is not empty leaves out a destination that the list
    read before it had moved. -/
theorem positions_follow_iff (prefs : Preferences) (maps : ADBMaps) (rs : List ModifierReading) :
    (∀ p, p <+: rs → (Transition.run read p (init prefs maps)).Follows) ↔
      ∀ p r, p ++ [r] <+: rs → (Transition.run read p (init prefs maps)).LeavesNone r :=
  Transition.run_invariant_iff (I := Follows) (C := LeavesNone) (fun _ r hf => follows_step hf r) rs
    (init_follows prefs maps)

theorem alone (src dst : NXModifierKey) : OnePerDestination [⟨src, dst⟩] := by
  intro d
  exact List.countP_le_length

/-- Caps Lock as Command is undone by mapping it to Control instead: Command stays on Caps Lock. -/
theorem positions_stale :
    ∃ r r' : ModifierReading,
      let h := Transition.run read [r, r'] (init Preferences.init ⟨fun _ => 0, fun _ => 0⟩)
      r'.modifiers = [⟨.ALPHALOCK, .CONTROL⟩] ∧ h.current = r'.modifiers ∧
        positionUnder h.current .command = 0x5b ∧ h.keyboard.commandKey = 0x3a := by
  refine ⟨⟨1, { quietWorld with modifierMapping := some [⟨.ALPHALOCK, .COMMAND⟩] }, _, rfl, alone _ _⟩,
    ⟨5000000000, { quietWorld with modifierMapping := some [⟨.ALPHALOCK, .CONTROL⟩] }, _, rfl, alone _ _⟩, ?_⟩
  decide +kernel

end ModifierHistory

end ApplePS2
