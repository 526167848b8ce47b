import Mathlib.Data.List.Induction
import PulseBench.AssetGuard

/-!
# Who holds a busy asset

Whoever marks an asset busy holds a token for it, and drops the token when the
asset may be used again. Several tokens for one asset may be alive at once. The
guard knows the names of the busy assets only, and not how many tokens there
are, so the first token that is dropped makes an asset idle for everybody.

Tokens are numbered in the order in which they are taken. A history is a list of
takes and drops, in any order; a token that was dropped is not dropped again.

Results:
1. `isBusy_mark`, `isBusy_release`, `waitIdle_eq`: the guard by what it answers.
2. `held_of_busy`: a busy asset is held by somebody.
3. `busy_iff`: an asset is busy exactly if it is held, and was taken after the
   last drop of a token for it.
4. `told_iff_taken_since_drop`: the guard tells right who holds an asset, unless
   a token for it was dropped, none was taken since, and still one is alive.
5. `told_throughout_iff`: it does so at all times exactly if no drop leaves
   another token for the asset alive.
-/

namespace PulseBench.AssetGuard

/-! ## 1. Marks -/

section Marks

variable {g : AssetGuard} {name other : String}

theorem isBusy_iff : g.isBusy name = true ↔ name ∈ g.busyAssets := by
  unfold isBusy NameSet.contains busyAssets
  rw [List.contains_iff_mem]

theorem isBusy_mark : (g.mark other).isBusy name = true ↔ name = other ∨ g.isBusy name = true := by
  rw [isBusy_iff, isBusy_iff]
  exact NameSet.mem_insert

theorem isBusy_release :
    (g.release other).isBusy name = true ↔ g.isBusy name = true ∧ name ≠ other := by
  rw [isBusy_iff, isBusy_iff]
  unfold busyAssets release NameSet.filter
  rw [List.mem_filter, bne_iff_ne]

/-- A wait succeeds if the asset is found idle at any time. -/
theorem waitIdle_eq (later : List AssetGuard) :
    g.waitIdle name later = (g :: later).any fun seen => !seen.isBusy name := by
  induction later generalizing g with
  | nil => simp [waitIdle]
  | cons next later ih => rw [waitIdle, ih, List.any_cons (a := g)]

end Marks

/-! ## 2. Tokens -/

/-- What is done with tokens. -/
inductive TokenEvent
  | take (name : String)
  | drop (token : Nat)
deriving DecidableEq

/-- A guard, and what its tokens are for in the order in which they were taken: nothing once they
are dropped. -/
structure Tokens where
  guard : AssetGuard
  taken : List (Option String)

namespace Tokens

/-- No token was taken. -/
def start : Tokens := ⟨idle, []⟩

/-- What a token is for while it is alive. -/
def asset? (t : Tokens) (token : Nat) : Option String := t.taken[token]?.join

/-- Some token for the asset is alive. -/
def Held (t : Tokens) (name : String) : Prop := some name ∈ t.taken

def step (t : Tokens) : TokenEvent → Tokens
  | .take name => ⟨t.guard.mark name, t.taken ++ [some name]⟩
  | .drop token =>
      match t.asset? token with
      | some name => ⟨t.guard.release name, t.taken.set token none⟩
      | none => t

/-- The tokens after a history. -/
def after (events : List TokenEvent) : Tokens := events.foldl step start

instance (t : Tokens) (name : String) : Decidable (t.Held name) :=
  inferInstanceAs (Decidable (some name ∈ t.taken))

theorem after_append (earlier later : List TokenEvent) :
    after (earlier ++ later) = later.foldl step (after earlier) :=
  List.foldl_append

theorem after_concat (events : List TokenEvent) (event : TokenEvent) :
    after (events ++ [event]) = (after events).step event :=
  after_append events [event]

variable {t : Tokens} {name other : String} {token : Nat}

theorem asset?_eq_some : t.asset? token = some name ↔ t.taken[token]? = some (some name) :=
  Option.join_eq_some_iff

theorem step_drop (alive : t.asset? token = some other) :
    t.step (.drop token) = ⟨t.guard.release other, t.taken.set token none⟩ := by
  simp only [step, alive]

theorem step_drop_dead (dead : t.asset? token = none) : t.step (.drop token) = t := by
  simp only [step, dead]

/-- Nobody gets a token by a drop. -/
theorem held_of_drop (held : (t.step (.drop token)).Held name) : t.Held name := by
  cases alive : t.asset? token with
  | none => rwa [step_drop_dead alive] at held
  | some other =>
    rw [step_drop alive] at held
    rcases List.mem_or_eq_of_mem_set held with kept | ⟨⟨⟩⟩
    exact kept

/-- A drop does not matter for the tokens of other assets. -/
theorem held_drop_of_ne (alive : t.asset? token = some other) (ne : name ≠ other)
    (held : t.Held name) : (t.step (.drop token)).Held name := by
  rw [step_drop alive]
  obtain ⟨n, at_n⟩ := List.mem_iff_getElem?.mp held
  refine List.mem_iff_getElem?.mpr ⟨n, ?_⟩
  rw [List.getElem?_set_ne, at_n]
  rintro rfl
  rw [asset?_eq_some, at_n] at alive
  cases alive
  exact ne rfl

theorem held_take : (t.step (.take other)).Held name ↔ t.Held name ∨ name = other := by
  simp [Held, step]

/-! ## 3. Busy and held -/

/-- A busy asset is held by somebody. -/
theorem held_of_busy (events : List TokenEvent) :
    (after events).guard.isBusy name = true → (after events).Held name := by
  induction events using List.reverseRecOn with
  | nil => nofun
  | append_singleton events event ih =>
    rw [after_concat]
    cases event with
    | take other =>
      rw [held_take]
      intro busy
      exact (isBusy_mark.mp busy).symm.imp_left ih
    | drop token =>
      cases alive : (after events).asset? token with
      | none => rwa [step_drop_dead alive]
      | some other =>
        intro busy
        rw [step_drop alive] at busy
        obtain ⟨busy, ne⟩ := isBusy_release.mp busy
        exact held_drop_of_ne alive ne (ih busy)

/-- The last thing that happened to an asset is that a token for it was dropped. -/
def DroppedLast (name : String) (events : List TokenEvent) : Prop :=
  ∃ earlier token later, events = earlier ++ .drop token :: later ∧
    (after earlier).asset? token = some name ∧ .take name ∉ later

theorem DroppedLast.concat {events : List TokenEvent} {event : TokenEvent}
    (h : DroppedLast name events) (other : event ≠ .take name) :
    DroppedLast name (events ++ [event]) := by
  obtain ⟨earlier, token, later, rfl, alive, untaken⟩ := h
  refine ⟨earlier, token, later ++ [event], by simp, alive, ?_⟩
  rw [List.mem_append, List.mem_singleton]
  exact not_or_intro untaken other.symm

/-- An idle asset becomes busy only if a token for it is taken. -/
theorem idle_step {event : TokenEvent} (isIdle : t.guard.isBusy name ≠ true)
    (other : event ≠ .take name) : (t.step event).guard.isBusy name ≠ true := by
  cases event with
  | take taken =>
    rintro busy
    rcases isBusy_mark.mp busy with rfl | busy
    · exact other rfl
    · exact isIdle busy
  | drop token =>
    cases alive : t.asset? token with
    | none => rwa [step_drop_dead alive]
    | some dropped =>
      rw [step_drop alive]
      exact fun busy => isIdle (isBusy_release.mp busy).1

theorem idle_steps {later : List TokenEvent} (isIdle : t.guard.isBusy name ≠ true)
    (untaken : .take name ∉ later) : (later.foldl step t).guard.isBusy name ≠ true := by
  induction later generalizing t with
  | nil => exact isIdle
  | cons event later ih =>
    obtain ⟨other, untaken⟩ := List.ne_and_not_mem_of_not_mem_cons untaken
    exact ih (idle_step isIdle other.symm) untaken

theorem idle_of_droppedLast {events : List TokenEvent} (h : DroppedLast name events) :
    (after events).guard.isBusy name ≠ true := by
  obtain ⟨earlier, token, later, rfl, alive, untaken⟩ := h
  rw [after_append, List.foldl_cons, step_drop alive]
  refine idle_steps ?_ untaken
  exact fun busy => (isBusy_release.mp busy).2 rfl

/-- Nobody gets a token for an asset without taking it. -/
theorem held_of_steps {later : List TokenEvent} (untaken : .take name ∉ later)
    (held : (later.foldl step t).Held name) : t.Held name := by
  induction later generalizing t with
  | nil => exact held
  | cons event later ih =>
    obtain ⟨other, untaken⟩ := List.ne_and_not_mem_of_not_mem_cons untaken
    have next := ih untaken held
    cases event with
    | take taken =>
      refine (held_take.mp next).resolve_right ?_
      rintro rfl
      exact other rfl
    | drop token => exact held_of_drop next

theorem droppedLast_of_idle (events : List TokenEvent) (held : (after events).Held name) :
    (after events).guard.isBusy name ≠ true → DroppedLast name events := by
  induction events using List.reverseRecOn with
  | nil => cases held
  | append_singleton events event ih =>
    rw [after_concat] at held ⊢
    intro isIdle
    cases event with
    | take other =>
      have untaken : name ≠ other := fun same => isIdle (isBusy_mark.mpr (Or.inl same))
      have before := (held_take.mp held).resolve_right untaken
      have wasIdle := fun busy => isIdle (isBusy_mark.mpr (Or.inr busy))
      exact (ih before wasIdle).concat (by simpa using untaken.symm)
    | drop token =>
      have before := held_of_drop held
      cases alive : (after events).asset? token with
      | none =>
        rw [step_drop_dead alive] at isIdle
        exact (ih before isIdle).concat nofun
      | some other =>
        by_cases same : name = other
        · subst same
          exact ⟨events, token, [], rfl, alive, List.not_mem_nil⟩
        · rw [step_drop alive] at isIdle
          have wasIdle := fun busy => isIdle (isBusy_release.mpr ⟨busy, same⟩)
          exact (ih before wasIdle).concat nofun

/-- The guard knows about a token as long as none for the same asset is dropped. -/
theorem busy_iff (events : List TokenEvent) (name : String) :
    (after events).guard.isBusy name = true ↔
      (after events).Held name ∧ ¬ DroppedLast name events := by
  constructor
  · intro busy
    exact ⟨held_of_busy events busy, fun dropped => idle_of_droppedLast dropped busy⟩
  · rintro ⟨held, undropped⟩
    exact not_not.mp fun isIdle => undropped (droppedLast_of_idle events held isIdle)

/-! ## 4. What the guard tells -/

/-- Whatever the guard is asked, it tells if somebody holds the asset. -/
structure Told (t : Tokens) (name : String) : Prop where
  busy : t.guard.isBusy name = true ↔ t.Held name
  listed : name ∈ t.guard.busyAssets ↔ t.Held name
  waits : t.guard.waitIdle name [] = false ↔ t.Held name

theorem told_iff_busy : t.Told name ↔ (t.guard.isBusy name = true ↔ t.Held name) := by
  refine ⟨Told.busy, fun busy => ⟨busy, isBusy_iff.symm.trans busy, Iff.trans ?_ busy⟩⟩
  rw [waitIdle, Bool.not_eq_false']

/-- The guard tells right who holds an asset, unless a token for it was dropped, none was taken
since, and still another one is alive. -/
theorem told_iff_taken_since_drop (events : List TokenEvent) (name : String) :
    (after events).Told name ↔ ¬ (DroppedLast name events ∧ (after events).Held name) := by
  rw [told_iff_busy, busy_iff]
  tauto

/-- With its only token an asset is released. -/
theorem told_of_only_token : (after [.take "rabi", .drop 0]).Told "rabi" := by
  have unheld : ¬ (after [.take "rabi", .drop 0]).Held "rabi" := by decide
  exact (told_iff_taken_since_drop _ _).mpr fun both => unheld both.2

/-- Two tokens for one asset: with the first one the asset is released, though the second one is
alive. -/
theorem untold_of_second_token :
    (after [.take "rabi", .take "rabi", .drop 0]).Held "rabi" ∧
      (after [.take "rabi", .take "rabi", .drop 0]).guard.isBusy "rabi" = false ∧
      "rabi" ∉ (after [.take "rabi", .take "rabi", .drop 0]).guard.busyAssets ∧
      (after [.take "rabi", .take "rabi", .drop 0]).guard.waitIdle "rabi" [] = true := by
  decide

/-- The guard tells right who holds an asset all the time, exactly if no drop leaves another token
for it alive. -/
theorem told_throughout_iff (events : List TokenEvent) (name : String) :
    (∀ earlier, earlier <+: events → (after earlier).Told name) ↔
      ∀ earlier token, earlier ++ [.drop token] <+: events →
        (after earlier).asset? token = some name →
          ¬ (after (earlier ++ [.drop token])).Held name := by
  constructor
  · intro told earlier token within alive held
    have busy := (told _ within).busy.mpr held
    exact ((busy_iff _ name).mp busy).2 ⟨earlier, token, [], rfl, alive, List.not_mem_nil⟩
  · intro unshared past within
    rw [told_iff_busy, busy_iff, and_iff_left_iff_imp]
    rintro held ⟨earlier, token, later, rfl, alive, untaken⟩
    rw [List.append_cons] at within held
    refine unshared earlier token ((List.prefix_append _ _).trans within) alive ?_
    rw [after_append] at held
    exact held_of_steps untaken held

end Tokens

end PulseBench.AssetGuard
