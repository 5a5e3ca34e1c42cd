/-
**The best of several candidates.**

Segments that land on one generated column compete: the walk keeps the pending mapping unless a candidate
is better.  Five rules say which of two targets is better, and a list of rules need not be an order; if it
were none, the winner would depend on the order of the segments.  But the rules compare keys, and keys are
linearly ordered.  So preference is a strict weak order, and all that a key shows of the winner is settled
by the candidates alone.

Main definitions:

* `Inlay.Target.Ties` — neither of two targets is better;
* `Inlay.Target.better` — the better of two targets, the first one if they tie;
* `Inlay.Walk.holdAll` — candidates taken in one after the other.

Main results:

* `Inlay.Target.ties_iff` — targets tie exactly if they agree in position and in having a name;
* `Inlay.Target.key_foldl_better_le` — what is left of several targets has the least key;
* `Inlay.Walk.holdAll_eq` — candidates of one place leave the best of them pending;
* `Inlay.Walk.prefers_strictWeak_winner` — **preference is a strict weak order, and the winner is best
  whatever the order of the candidates**.
-/
import Inlay.Proofs.Eligible
import Mathlib.Order.MinMax

set_option autoImplicit false

namespace Inlay

namespace Target

variable {host : Host} {a b c : Target}

/-! ### Preference as an order -/

theorem prefers_eq_false_iff : a.prefers host b = false ↔ a.key host ≤ b.key host := by
  rw [← Bool.not_eq_true, prefers_iff, not_lt]

/-- Neither of two targets is better than the other. -/
def Ties (host : Host) (a b : Target) : Prop :=
  a.prefers host b = false ∧ b.prefers host a = false

theorem ties_iff_key : a.Ties host b ↔ a.key host = b.key host := by
  rw [Ties, prefers_eq_false_iff, prefers_eq_false_iff, le_antisymm_iff]

/-- The key shows a target but for the text of its name. -/
theorem key_eq_iff : a.key host = b.key host ↔
    a.line = b.line ∧ a.column = b.column ∧ a.name.isSome = b.name.isSome := by
  have hnone : a.name.isNone = b.name.isNone ↔ a.name.isSome = b.name.isSome := by
    rw [← Option.not_isSome, ← Option.not_isSome, Bool.not_inj_iff]
  simp only [key, toLex_inj, Prod.mk.injEq, hnone]
  constructor
  · rintro ⟨_, hrest⟩
    exact hrest
  · rintro ⟨hline, hcolumn, hname⟩
    exact ⟨by rw [hline, hcolumn], hline, hcolumn, hname⟩

/-- Targets tie exactly if they agree in position and in having a name. -/
theorem ties_iff : a.Ties host b ↔
    a.line = b.line ∧ a.column = b.column ∧ a.name.isSome = b.name.isSome :=
  ties_iff_key.trans key_eq_iff

theorem prefers_irrefl (host : Host) (a : Target) : ¬ a.prefers host a = true := by
  rw [prefers_iff]
  exact lt_irrefl _

theorem prefers_trans (hab : a.prefers host b = true) (hbc : b.prefers host c = true) :
    a.prefers host c = true := by
  rw [prefers_iff] at *
  exact hbc.trans hab

theorem Ties.trans (hab : a.Ties host b) (hbc : b.Ties host c) : a.Ties host c := by
  rw [ties_iff_key] at *
  exact hab.trans hbc

/-! ### The best of several targets -/

/-- The better of two targets, the current one if they tie. -/
def better (host : Host) (current candidate : Target) : Target :=
  if current.prefers host candidate then candidate else current

theorem better_eq_or (host : Host) (a b : Target) : a.better host b = a ∨ a.better host b = b := by
  unfold better
  split
  · exact Or.inr rfl
  · exact Or.inl rfl

theorem key_better (host : Host) (a b : Target) :
    (a.better host b).key host = min (a.key host) (b.key host) := by
  unfold better
  split
  · next h => exact (min_eq_right (prefers_iff.1 h).le).symm
  · next h => exact (min_eq_left (prefers_eq_false_iff.1 (Bool.not_eq_true _ ▸ h))).symm

theorem foldl_better_mem (host : Host) (first : Target) (rest : List Target) :
    rest.foldl (better host) first ∈ first :: rest := by
  induction rest generalizing first with
  | nil => exact List.mem_cons_self ..
  | cons next rest ih =>
      rw [List.foldl_cons]
      have hmem := ih (first.better host next)
      rcases better_eq_or host first next with hbest | hbest <;> rw [hbest] at hmem ⊢ <;>
        simp only [List.mem_cons] at hmem ⊢ <;> tauto

/-- What is left of several targets has the least key. -/
theorem key_foldl_better_le (host : Host) (first : Target) (rest : List Target) :
    ∀ target ∈ first :: rest,
      (rest.foldl (better host) first).key host ≤ target.key host := by
  induction rest generalizing first with
  | nil => simp
  | cons next rest ih =>
      intro target htarget
      have hbest := ih (first.better host next) _ (List.mem_cons_self ..)
      rw [key_better, le_min_iff] at hbest
      rcases List.mem_cons.1 htarget with rfl | htarget
      · exact hbest.1
      · rcases List.mem_cons.1 htarget with rfl | htarget
        · exact hbest.2
        · exact ih (first.better host next) target (List.mem_cons_of_mem _ htarget)

/-- In another order the same targets leave one that ties with the one that was left. -/
theorem ties_foldl_better_of_perm {first other : Target} {rest others : List Target}
    (h : (other :: others).Perm (first :: rest)) :
    (others.foldl (better host) other).Ties host (rest.foldl (better host) first) := by
  have hmem := foldl_better_mem host first rest
  have hmem' := foldl_better_mem host other others
  exact ⟨prefers_eq_false_iff.2 (key_foldl_better_le host other others _ (h.mem_iff.2 hmem)),
    prefers_eq_false_iff.2 (key_foldl_better_le host first rest _ (h.mem_iff.1 hmem'))⟩

/-- The candidate that has a target, at a generated place. -/
def candidate (line column : Nat) (target : Target) : Mapping :=
  { line, column, target, origin := .coalesced }

end Target

/-! ### Candidates of one place -/

namespace Walk

/-- Takes in one more candidate, after what was settled and with what is pending. -/
def holdNext (walk : Walk) (state : List Mapping × Option Mapping) (candidate : Mapping) :
    List Mapping × Option Mapping :=
  let (settled, next) := walk.hold state.2 candidate
  (state.1 ++ settled.toList, some next)

/-- Candidates taken in one after the other: what is settled on the way, and what is pending at the
end. -/
def holdAll (walk : Walk) (candidates : List Mapping) : List Mapping × Option Mapping :=
  candidates.foldl walk.holdNext ([], none)

/-- Of two candidates of one place the better one is pending. -/
theorem holdNext_candidate (walk : Walk) (line column : Nat) (current target : Target) :
    walk.holdNext ([], some (current.candidate line column)) (target.candidate line column) =
      ([], some ((current.better walk.host target).candidate line column)) := by
  cases hprefers : current.prefers walk.host target <;>
    simp [holdNext, hold, Target.candidate, Target.better, hprefers]

/-- **Candidates of one place leave the best of them pending**, and nothing is settled. -/
theorem holdAll_eq (walk : Walk) (line column : Nat) (first : Target) (rest : List Target) :
    walk.holdAll ((first :: rest).map (Target.candidate line column)) =
      ([], some ((rest.foldl (Target.better walk.host) first).candidate line column)) := by
  have hfirst : walk.holdNext ([], none) (first.candidate line column) =
      ([], some (first.candidate line column)) := rfl
  rw [holdAll, List.map_cons, List.foldl_cons, hfirst]
  induction rest generalizing first with
  | nil => rfl
  | cons next rest ih =>
      rw [List.map_cons, List.foldl_cons, holdNext_candidate, List.foldl_cons]
      exact ih (first.better walk.host next) rfl

/-- **Preference is a strict weak order, and the winner of a contest is best.**  No target is better than
itself, better than better is better, and ties are transitive.  Of the candidates of one generated place, in
whatever order they come, one is left pending to which none of them is preferred; its host position, and
whether it has a name, do not depend on that order. -/
theorem prefers_strictWeak_winner (walk : Walk) :
    (∀ a : Target, ¬ a.prefers walk.host a = true) ∧
    (∀ a b c : Target, a.prefers walk.host b = true → b.prefers walk.host c = true →
      a.prefers walk.host c = true) ∧
    (∀ a b c : Target, a.Ties walk.host b → b.Ties walk.host c → a.Ties walk.host c) ∧
    ∀ (line column : Nat) (targets : List Target), targets ≠ [] →
      ∃ winner ∈ targets,
        walk.holdAll (targets.map (Target.candidate line column)) =
          ([], some (winner.candidate line column)) ∧
        (∀ target ∈ targets, winner.prefers walk.host target = false) ∧
        ∀ others : List Target, others.Perm targets →
          ∃ other : Target, walk.holdAll (others.map (Target.candidate line column)) =
              ([], some (other.candidate line column)) ∧
            other.line = winner.line ∧ other.column = winner.column ∧
            other.name.isSome = winner.name.isSome := by
  refine ⟨Target.prefers_irrefl walk.host, fun _ _ _ => Target.prefers_trans,
    fun _ _ _ => Target.Ties.trans, ?_⟩
  intro line column targets hne
  obtain ⟨first, rest, rfl⟩ := List.exists_cons_of_ne_nil hne
  refine ⟨_, Target.foldl_better_mem walk.host first rest, walk.holdAll_eq line column first rest,
    ?_, ?_⟩
  · intro target htarget
    exact Target.prefers_eq_false_iff.2
      (Target.key_foldl_better_le walk.host first rest target htarget)
  · intro others hperm
    cases others with
    | nil => exact absurd hperm.symm.eq_nil hne
    | cons other others =>
        exact ⟨_, walk.holdAll_eq line column other others,
          Target.ties_iff.1 (Target.ties_foldl_better_of_perm hperm)⟩

/-- A blank, a later line, a position without a name, and two names for that position. -/
theorem prefers_strictWeak_winner_two_names :
    ∃ (walk : Walk) (blank later plain named other : Target),
      walk.host = ⟨"App.svelte", "a b\ncd"⟩ ∧ blank = ⟨0, 1, none⟩ ∧ later = ⟨1, 0, none⟩ ∧
      plain = ⟨0, 2, none⟩ ∧ named = ⟨0, 2, some "b"⟩ ∧ other = ⟨0, 2, some "c"⟩ ∧
      blank.prefers walk.host later = true ∧ later.prefers walk.host plain = true ∧
      blank.prefers walk.host plain = true ∧
      named.Ties walk.host other ∧ other.Ties walk.host named ∧ named.Ties walk.host named ∧
      walk.holdAll ([blank, later, plain, named, other].map (Target.candidate 0 7)) =
        ([], some (named.candidate 0 7)) ∧
      ∃ winner : Target,
        walk.holdAll ([blank, later, plain, named, other].reverse.map (Target.candidate 0 7)) =
          ([], some (winner.candidate 0 7)) ∧
        winner.line = 0 ∧ winner.column = 2 ∧ winner.name.isSome = true := by
  let walk : Walk := ⟨{ lines := [] }, { status := .completed }, ⟨"App.svelte", "a b\ncd"⟩,
    ⟨0, 0, 0⟩, true⟩
  obtain ⟨_, htrans, hties, hwinner⟩ := prefers_strictWeak_winner walk
  have hlater : Target.prefers walk.host ⟨0, 1, none⟩ ⟨1, 0, none⟩ = true := by decide +kernel
  have hplain : Target.prefers walk.host ⟨1, 0, none⟩ ⟨0, 2, none⟩ = true := by decide +kernel
  have hother : Target.Ties walk.host ⟨0, 2, some "b"⟩ ⟨0, 2, some "c"⟩ :=
    Target.ties_iff.2 ⟨rfl, rfl, rfl⟩
  have hnamed : Target.Ties walk.host ⟨0, 2, some "c"⟩ ⟨0, 2, some "b"⟩ :=
    Target.ties_iff.2 ⟨rfl, rfl, rfl⟩
  have hfirst : walk.holdAll ([⟨0, 1, none⟩, ⟨1, 0, none⟩, ⟨0, 2, none⟩, ⟨0, 2, some "b"⟩,
      ⟨0, 2, some "c"⟩].map (Target.candidate 0 7)) =
      ([], some (Target.candidate 0 7 ⟨0, 2, some "b"⟩)) := by decide +kernel
  refine ⟨walk, _, _, _, _, _, rfl, rfl, rfl, rfl, rfl, rfl, hlater, hplain,
    htrans _ _ _ hlater hplain, hother, hnamed, hties _ _ _ hother hnamed, hfirst, ?_⟩
  obtain ⟨winner, _, hhold, _, hperm⟩ := hwinner 0 7
    [⟨0, 1, none⟩, ⟨1, 0, none⟩, ⟨0, 2, none⟩, ⟨0, 2, some "b"⟩, ⟨0, 2, some "c"⟩] (by simp)
  have hbest := Option.some.inj (Prod.mk.inj (hhold.symm.trans hfirst)).2
  obtain rfl : winner = ⟨0, 2, some "b"⟩ := congrArg Mapping.target hbest
  exact hperm _ (List.reverse_perm _)

end Walk

end Inlay
