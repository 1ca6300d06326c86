import Mathlib.Data.Fintype.Basic
import Mathlib.Data.List.Infix

/- What each key holds, read off a history with the latest event first. An event may give
   one key something to hold, or take it away. -/
namespace Holdings
variable {ε κ ι : Type} [DecidableEq κ] (reading : ε → Option (κ × Option ι))

def held (key : κ) : List ε → Option ι
  | [] => none
  | event :: older =>
    match reading event with
    | some (changed, item) => if changed = key then item else held key older
    | none => held key older

/-- Nothing is given to one key while another holds it. -/
def GivenAfresh (history : List ε) : Prop :=
  ∀ event older, event :: older <:+ history → ∀ key item, reading event = some (key, some item) →
    ∀ other, other ≠ key → held reading other older ≠ some item

def givenAfresh [Fintype κ] [DecidableEq ι] : List ε → Bool
  | [] => true
  | event :: older =>
    (match reading event with
      | some (key, some item) => decide (∀ other, other ≠ key → held reading other older ≠ some item)
      | _ => true) && givenAfresh older

variable {reading}

theorem givenAfresh_cons {event : ε} {older : List ε} : GivenAfresh reading (event :: older) ↔
    (∀ key item, reading event = some (key, some item) →
      ∀ other, other ≠ key → held reading other older ≠ some item) ∧ GivenAfresh reading older := by
  constructor
  · intro afresh
    constructor
    · exact afresh event older List.suffix_rfl
    · intro later earlier within
      exact afresh later earlier (within.trans (List.suffix_cons _ _))
  · rintro ⟨fresh, afresh⟩ later earlier within
    rcases List.suffix_cons_iff.mp within with same | older
    · obtain ⟨rfl, rfl⟩ := List.cons.inj same
      exact fresh
    · exact afresh later earlier older

theorem givenAfresh_iff [Fintype κ] [DecidableEq ι] (history : List ε) :
    givenAfresh reading history = true ↔ GivenAfresh reading history := by
  induction history with
  | nil =>
    refine iff_of_true rfl ?_
    intro event older within
    exact absurd (List.suffix_nil.mp within) (List.cons_ne_nil _ _)
  | cons event older ih =>
    rw [givenAfresh_cons, givenAfresh, Bool.and_eq_true, ih]
    refine and_congr_left fun _ => ?_
    split
    · rename_i key item read
      simp [read]
    · rename_i unread
      refine iff_of_true rfl fun key item read => ?_
      exact absurd read (unread key item)

instance decidableGivenAfresh [Fintype κ] [DecidableEq ι] (history : List ε) :
    Decidable (GivenAfresh reading history) :=
  decidable_of_iff _ (givenAfresh_iff history)

theorem held_cons {event : ε} {changed : κ} {item : Option ι}
    (read : reading event = some (changed, item)) (key : κ) (older : List ε) :
    held reading key (event :: older) =
      if changed = key then item else held reading key older := by
  simp only [held, read]

theorem held_append_silent {newer : List ε} (silent : ∀ event ∈ newer, reading event = none)
    (key : κ) (older : List ε) : held reading key (newer ++ older) = held reading key older := by
  induction newer with
  | nil => rfl
  | cons event newer ih =>
    simp only [List.cons_append, held, silent event List.mem_cons_self]
    apply ih
    intro later member
    exact silent later (List.mem_cons_of_mem _ member)

theorem held_given {history : List ε} {key : κ} {item : ι}
    (holds : held reading key history = some item) :
    ∃ event ∈ history, reading event = some (key, some item) := by
  induction history with
  | nil => cases holds
  | cons event older hyp =>
    have later (before : held reading key older = some item) :
        ∃ given ∈ event :: older, reading given = some (key, some item) := by
      obtain ⟨given, member, read⟩ := hyp before
      exact ⟨given, List.mem_cons_of_mem _ member, read⟩
    cases read : reading event with
    | none =>
      simp only [held, read] at holds
      exact later holds
    | some change =>
      obtain ⟨changed, given⟩ := change
      rw [held_cons read] at holds
      split at holds
      · rename_i here
        subst here holds
        exact ⟨event, List.mem_cons_self, read⟩
      · exact later holds

/-- Two keys never hold the same item. -/
theorem held_distinct {history : List ε} (afresh : GivenAfresh reading history) {key other : κ}
    (different : key ≠ other) {item : ι} (holds : held reading key history = some item) :
    held reading other history ≠ some item := by
  induction history with
  | nil => simp [held] at holds
  | cons event older ih =>
    obtain ⟨fresh, earlier⟩ := givenAfresh_cons.mp afresh
    cases read : reading event with
    | none =>
      simp only [held, read] at holds ⊢
      exact ih earlier holds
    | some change =>
      obtain ⟨changed, given⟩ := change
      rw [held_cons read] at holds ⊢
      by_cases here : changed = key
      · subst here
        rw [if_pos rfl] at holds
        subst holds
        rw [if_neg different]
        exact fresh changed item read other different.symm
      · rw [if_neg here] at holds
        split
        · rename_i there
          subst there
          rintro rfl
          exact fresh changed item read key different holds
        · exact ih earlier holds

/- A key that is given something only while it holds nothing, and loses it only while it holds
   something: it has been given once more than it has lost exactly while it holds something. -/

section Balance
variable (reading)

def gives (key : κ) (event : ε) : Bool :=
  match reading event with
  | some (changed, some _) => changed = key
  | _ => false

def takes (key : κ) (event : ε) : Bool :=
  match reading event with
  | some (changed, none) => changed = key
  | _ => false

/-- Only a key that holds nothing is given something, and only one that holds something loses
    it. -/
def Fits (older : List ε) (event : ε) : Prop :=
  ∀ key item, reading event = some (key, item) → (held reading key older).isSome ≠ item.isSome

variable {reading} {key : κ} {event : ε} {older history : List ε}

theorem gives_silent (silent : reading event = none) : gives reading key event = false := by
  simp only [gives, silent]

theorem takes_silent (silent : reading event = none) : takes reading key event = false := by
  simp only [takes, silent]

theorem gives_changed {changed : κ} {item : Option ι} (read : reading event = some (changed, item)) :
    gives reading key event = (item.isSome && decide (changed = key)) := by
  cases item with
  | none => simp only [gives, read, Option.isSome_none, Bool.false_and]
  | some item => simp only [gives, read, Option.isSome_some, Bool.true_and]

theorem takes_changed {changed : κ} {item : Option ι} (read : reading event = some (changed, item)) :
    takes reading key event = (!item.isSome && decide (changed = key)) := by
  cases item with
  | none => simp only [takes, read, Option.isSome_none, Bool.not_false, Bool.true_and]
  | some item => simp only [takes, read, Option.isSome_some, Bool.not_true, Bool.false_and]

theorem given_balance (fits : ∀ event older, event :: older <:+ history → Fits reading older event)
    (key : κ) : history.countP (gives reading key) =
      history.countP (takes reading key) + if (held reading key history).isSome then 1 else 0 := by
  induction history with
  | nil => rfl
  | cons event older ih =>
    have before := ih fun other past present =>
      fits other past (present.trans (List.suffix_cons event older))
    have fit := fits event older List.suffix_rfl
    rw [List.countP_cons, List.countP_cons]
    cases read : reading event with
    | none =>
      have kept : held reading key (event :: older) = held reading key older := by
        simp only [held, read]
      rw [gives_silent read, takes_silent read, kept]
      simpa using before
    | some change =>
      obtain ⟨changed, item⟩ := change
      rw [gives_changed read, takes_changed read, held_cons read]
      by_cases here : changed = key
      · subst here
        have turned := fit changed item read
        cases item with
        | none =>
          have holding : (held reading changed older).isSome = true :=
            Option.isSome_iff_ne_none.mpr (by simpa using turned)
          rw [holding] at before
          simpa using before
        | some item =>
          have bare : (held reading changed older).isSome = false := by simpa using turned
          rw [bare] at before
          simpa using before
      · simpa [here] using before

end Balance

end Holdings
