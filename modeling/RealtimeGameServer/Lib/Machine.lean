import Mathlib.Data.List.Basic

/-!
# Labelled machines and their runs

A machine is a partial step function: every choice the environment makes (which
party moves, which answer a call gets, which identifier is drawn) is in the
label, and `none` means that the label is not enabled. A run is a list of
labels. Three rules carry every induction over runs: the invariant rule, the
guarded rule (the invariant survives the steps that meet a guard) and the exact
rule (a property holds all along a run if and only if every step meets the
guard).
-/
namespace RealtimeGameServer.Lib

structure Machine (σ α : Type*) where
  step : σ → α → Option σ

namespace Machine
variable {σ α : Type*} (M : Machine σ α)

/-- Execute the labels in order; `none` when one of them is not enabled. -/
def exec : σ → List α → Option σ
  | s, [] => some s
  | s, a :: rest => (M.step s a).bind fun t => exec t rest

def Reachable (init s : σ) : Prop := ∃ labels, M.exec init labels = some s

/-- `P` holds in the first state of the run and in every state it visits. -/
def Along (P : σ → Prop) : σ → List α → Prop
  | s, [] => P s
  | s, a :: rest => P s ∧ ∀ t, M.step s a = some t → Along P t rest

/-- Every step the run takes meets the guard, a condition on the state before
the step and on its label. -/
def StepsMeet (G : σ → α → Prop) : σ → List α → Prop
  | _, [] => True
  | s, a :: rest => ∀ t, M.step s a = some t → G s a ∧ StepsMeet G t rest

/-- The machine with a record of what each step is noted for. -/
def recording {β : Type*} (M : Machine σ α) (note : σ → α → List β) : Machine (σ × List β) α where
  step s a := (M.step s.1 a).map fun t => (t, s.2 ++ note s.1 a)

variable {M}

theorem recording_step {β : Type*} {note : σ → α → List β} {s t : σ × List β} {a : α}
    (h : (M.recording note).step s a = some t) :
    M.step s.1 a = some t.1 ∧ t.2 = s.2 ++ note s.1 a := by
  obtain ⟨u, hu, rfl⟩ := Option.map_eq_some_iff.mp h
  exact ⟨hu, rfl⟩

theorem exec_cons {s t : σ} {a : α} {rest : List α} :
    M.exec s (a :: rest) = some t ↔ ∃ u, M.step s a = some u ∧ M.exec u rest = some t := by
  rw [exec, Option.bind_eq_some_iff]

theorem exec_append {s t : σ} {front back : List α} :
    M.exec s (front ++ back) = some t ↔
      ∃ u, M.exec s front = some u ∧ M.exec u back = some t := by
  induction front generalizing s with
  | nil => simp [exec]
  | cons a rest ih =>
    simp only [List.cons_append, exec_cons, ih]
    constructor
    · rintro ⟨u, hu, w, hw, ht⟩
      exact ⟨w, ⟨u, hu, hw⟩, ht⟩
    · rintro ⟨w, ⟨u, hu, hw⟩, ht⟩
      exact ⟨u, hu, w, hw, ht⟩

/-- The invariant rule. -/
theorem exec_invariant {I : σ → Prop} (hstep : ∀ s a t, I s → M.step s a = some t → I t)
    {labels : List α} {s t : σ} (h0 : I s) (h : M.exec s labels = some t) : I t := by
  induction labels generalizing s with
  | nil =>
    cases h
    exact h0
  | cons a rest ih =>
    obtain ⟨u, hu, hrest⟩ := exec_cons.mp h
    exact ih (hstep s a u h0 hu) hrest

theorem Reachable.invariant {I : σ → Prop} {s t : σ}
    (hstep : ∀ s a t, I s → M.step s a = some t → I t) (h0 : I s) (h : M.Reachable s t) : I t := by
  obtain ⟨labels, hl⟩ := h
  exact exec_invariant hstep h0 hl

/-- The projection rule: where the labels that `P` picks act on a view of the state as
`next`, and the others leave the view alone, a run acts on the view as the labels that
are picked do. -/
theorem exec_projection {β : Type*} {view : σ → Option β} {P : α → Bool} {next : β → α → β}
    {L : α → Prop} (hstep : ∀ s a t x, L a → M.step s a = some t → view s = some x →
      view t = some (if P a then next x a else x))
    {labels : List α} (hL : ∀ a ∈ labels, L a) {s t : σ} {x : β} (hview : view s = some x)
    (h : M.exec s labels = some t) : view t = some ((labels.filter P).foldl next x) := by
  induction labels generalizing s x with
  | nil =>
    cases h
    exact hview
  | cons a rest ih =>
    obtain ⟨u, hu, hrest⟩ := exec_cons.mp h
    have hnext := hstep s a u x (hL a List.mem_cons_self) hu hview
    rw [ih (fun b hb => hL b (List.mem_cons_of_mem _ hb)) hnext hrest, List.filter_cons]
    split
    next => rw [List.foldl_cons]
    next => rfl

theorem Along.head {P : σ → Prop} {s : σ} {labels : List α} (h : M.Along P s labels) : P s := by
  cases labels with
  | nil => exact h
  | cons a rest => exact h.1

theorem Along.mono {P Q : σ → Prop} (hPQ : ∀ s, P s → Q s) {labels : List α} {s : σ}
    (h : M.Along P s labels) : M.Along Q s labels := by
  induction labels generalizing s with
  | nil => exact hPQ s h
  | cons a rest ih => exact ⟨hPQ s h.1, fun t ht => ih (h.2 t ht)⟩

theorem Along.and {P Q : σ → Prop} {labels : List α} {s : σ} (hP : M.Along P s labels)
    (hQ : M.Along Q s labels) : M.Along (fun s => P s ∧ Q s) s labels := by
  induction labels generalizing s with
  | nil => exact ⟨hP, hQ⟩
  | cons a rest ih => exact ⟨⟨hP.1, hQ.1⟩, fun t ht => ih (hP.2 t ht) (hQ.2 t ht)⟩

/-- What holds along a run holds where the run ends. -/
theorem Along.last {P : σ → Prop} {labels : List α} {s t : σ} (h : M.Along P s labels)
    (hexec : M.exec s labels = some t) : P t := by
  induction labels generalizing s with
  | nil =>
    cases hexec
    exact h
  | cons a rest ih =>
    obtain ⟨u, hu, hrest⟩ := exec_cons.mp hexec
    exact ih (h.2 u hu) hrest

/-- What holds along a run with a record holds along the run. -/
theorem along_of_recording {β : Type*} {note : σ → α → List β} {P : σ → Prop} {labels : List α}
    {s : σ} {record : List β}
    (h : (M.recording note).Along (fun p => P p.1) (s, record) labels) : M.Along P s labels := by
  induction labels generalizing s record with
  | nil => exact h
  | cons a rest ih =>
    refine ⟨h.1, fun t ht => ih (h.2 (t, record ++ note s a) ?_)⟩
    exact congrArg (Option.map fun u => (u, record ++ note s a)) ht

/-- A guard that holds of every step between states in which `P` holds. -/
theorem Along.stepsMeet {P : σ → Prop} {G : σ → α → Prop}
    (hforce : ∀ s a t, P s → M.step s a = some t → P t → G s a) {labels : List α} {s : σ}
    (h : M.Along P s labels) : M.StepsMeet G s labels := by
  induction labels generalizing s with
  | nil => trivial
  | cons a rest ih =>
    intro t ht
    have htail := h.2 t ht
    exact ⟨hforce s a t h.1 ht htail.head, ih htail⟩

theorem along_of_invariant {I : σ → Prop} (hstep : ∀ s a t, I s → M.step s a = some t → I t)
    (labels : List α) {s : σ} (h0 : I s) : M.Along I s labels := by
  induction labels generalizing s with
  | nil => exact h0
  | cons a rest ih => exact ⟨h0, fun t ht => ih (hstep s a t h0 ht)⟩

/-- A property that no step restores, under an invariant, holds all along a run that
ends with it. -/
theorem along_of_last {I P : σ → Prop} (hstep : ∀ s a t, I s → M.step s a = some t → I t)
    (hback : ∀ s a t, I s → M.step s a = some t → P t → P s) {labels : List α} {s t : σ}
    (h0 : I s) (hexec : M.exec s labels = some t) (hlast : P t) : M.Along P s labels := by
  induction labels generalizing s with
  | nil =>
    cases hexec
    exact hlast
  | cons a rest ih =>
    obtain ⟨u, hu, hrest⟩ := exec_cons.mp hexec
    have htail := ih (hstep s a u h0 hu) hrest
    refine ⟨hback s a u h0 hu htail.head, fun v hv => ?_⟩
    cases hu.symm.trans hv
    exact htail

theorem stepsMeet_congr {G H : σ → α → Prop}
    (h : ∀ s a t, M.step s a = some t → (G s a ↔ H s a)) {labels : List α} {s : σ} :
    M.StepsMeet G s labels ↔ M.StepsMeet H s labels := by
  induction labels generalizing s with
  | nil => exact Iff.rfl
  | cons a rest ih => exact forall₂_congr fun t ht => and_congr (h s a t ht) ih

theorem StepsMeet.mono {G H : σ → α → Prop} (h : ∀ s a, G s a → H s a) {labels : List α} {s : σ}
    (hmeet : M.StepsMeet G s labels) : M.StepsMeet H s labels := by
  induction labels generalizing s with
  | nil => trivial
  | cons a rest ih => exact fun t ht => ⟨h s a (hmeet t ht).1, ih (hmeet t ht).2⟩

theorem StepsMeet.cons {G : σ → α → Prop} {s t : σ} {a : α} {rest : List α}
    (hstep : M.step s a = some t) (hguard : G s a) (hrest : M.StepsMeet G t rest) :
    M.StepsMeet G s (a :: rest) := by
  intro u hu
  cases hstep.symm.trans hu
  exact ⟨hguard, hrest⟩

/-- A guard that holds of the labels whatever the state. -/
theorem StepsMeet.of_labels {G : σ → α → Prop} {labels : List α}
    (h : ∀ a ∈ labels, ∀ s, G s a) (s : σ) : M.StepsMeet G s labels := by
  induction labels generalizing s with
  | nil => trivial
  | cons a rest ih =>
    intro t _
    exact ⟨h a List.mem_cons_self s, ih (fun b hb => h b (List.mem_cons_of_mem _ hb)) t⟩

theorem stepsMeet_append {G : σ → α → Prop} {front back : List α} {s : σ} :
    M.StepsMeet G s (front ++ back) ↔ M.StepsMeet G s front ∧
      ∀ t, M.exec s front = some t → M.StepsMeet G t back := by
  induction front generalizing s with
  | nil =>
    constructor
    · intro h
      refine ⟨trivial, fun t ht => ?_⟩
      cases ht
      exact h
    · exact fun h => h.2 s rfl
  | cons a rest ih =>
    constructor
    · intro h
      refine ⟨fun t ht => ⟨(h t ht).1, (ih.mp (h t ht).2).1⟩, fun u hu => ?_⟩
      obtain ⟨t, ht, hrest⟩ := exec_cons.mp hu
      exact (ih.mp (h t ht).2).2 u hrest
    · rintro ⟨hfront, hback⟩ t ht
      obtain ⟨hguard, hrest⟩ := hfront t ht
      exact ⟨hguard, ih.mpr ⟨hrest, fun u hu => hback u (exec_cons.mpr ⟨t, ht, hu⟩)⟩⟩

/-- Evaluate a decidable guard along a run. -/
def checks (M : Machine σ α) (G : σ → α → Bool) : σ → List α → Bool
  | _, [] => true
  | s, a :: rest =>
    match M.step s a with
    | none => true
    | some t => G s a && checks M G t rest

theorem stepsMeet_iff_checks {G : σ → α → Bool} {labels : List α} {s : σ} :
    M.StepsMeet (fun s a => G s a) s labels ↔ M.checks G s labels := by
  induction labels generalizing s with
  | nil => simp [StepsMeet, checks]
  | cons a rest ih =>
    cases hstep : M.step s a with
    | none => simp [StepsMeet, checks, hstep]
    | some t => simp [StepsMeet, checks, hstep, ih]

/-- A decidable guard is checked by evaluating the run. -/
theorem stepsMeet_iff_decide {G : σ → α → Prop} [∀ s a, Decidable (G s a)] {labels : List α}
    {s : σ} : M.StepsMeet G s labels ↔ M.checks (fun s a => G s a) s labels = true := by
  rw [← stepsMeet_iff_checks]
  simp only [decide_eq_true_eq]

section Guarded
variable {I : σ → Prop} {G : σ → α → Prop} {L : α → Prop}

/-- The guarded rule: over labels in `L`, the invariant survives every step that
meets the guard. -/
theorem along_of_guarded
    (hkeep : ∀ s a t, I s → L a → M.step s a = some t → G s a → I t)
    {labels : List α} (hL : ∀ a ∈ labels, L a) {s : σ} (h0 : I s)
    (hg : M.StepsMeet G s labels) : M.Along I s labels := by
  induction labels generalizing s with
  | nil => exact h0
  | cons a rest ih =>
    refine ⟨h0, fun t ht => ?_⟩
    obtain ⟨hga, hrest⟩ := hg t ht
    have hI := hkeep s a t h0 (hL a List.mem_cons_self) ht hga
    exact ih (fun b hb => hL b (List.mem_cons_of_mem _ hb)) hI hrest

/-- The guarded rule with a clock: where the labels that read the clock read times that do not
go back, an invariant that speaks of the last time read holds where the run ends. -/
theorem exec_of_clock {T : Type*} [LE T] {time : α → Option T} {J : T → σ → Prop}
    (hkeep : ∀ now s a t, J now s → (∀ later ∈ time a, now ≤ later) → M.step s a = some t →
      G s a → J ((time a).getD now) t)
    {labels : List α} (hordered : (labels.filterMap time).Pairwise (· ≤ ·)) {now : T}
    (hnow : ∀ later ∈ labels.filterMap time, now ≤ later) {s t : σ} (h0 : J now s)
    (hg : M.StepsMeet G s labels) (h : M.exec s labels = some t) : ∃ last, J last t := by
  induction labels generalizing s now with
  | nil =>
    cases h
    exact ⟨now, h0⟩
  | cons a rest ih =>
    obtain ⟨u, hu, hrest⟩ := exec_cons.mp h
    obtain ⟨hga, hgrest⟩ := hg u hu
    cases htime : time a with
    | none =>
      rw [List.filterMap_cons_none htime] at hordered hnow
      have hnext := hkeep now s a u h0 (fun later hlater => by rw [htime] at hlater; cases hlater)
        hu hga
      rw [htime, Option.getD_none] at hnext
      exact ih hordered hnow hnext hgrest hrest
    | some read =>
      rw [List.filterMap_cons_some htime] at hordered hnow
      obtain ⟨hfirst, hordered⟩ := List.pairwise_cons.mp hordered
      have hnext := hkeep now s a u h0 (fun later hlater => ?_) hu hga
      · rw [htime, Option.getD_some] at hnext
        exact ih hordered hfirst hnext hgrest hrest
      · rw [htime, Option.mem_some_iff] at hlater
        exact hlater ▸ hnow read List.mem_cons_self

/-- The exact rule: where the guard is what keeps the invariant and the property
is what forces the guard, the property holds along a run precisely when every
step meets the guard. All of it over steps in a domain `D`. -/
theorem along_iff_stepsMeet_within {P : σ → Prop} {D : σ → α → Prop} (hIP : ∀ s, I s → P s)
    (hkeep : ∀ s a t, I s → D s a → M.step s a = some t → G s a → I t)
    (hforce : ∀ s a t, I s → D s a → M.step s a = some t → P t → G s a)
    {labels : List α} {s : σ} (hD : M.StepsMeet D s labels) (h0 : I s) :
    M.Along P s labels ↔ M.StepsMeet G s labels := by
  constructor
  · intro hP
    induction labels generalizing s with
    | nil => trivial
    | cons a rest ih =>
      intro t ht
      obtain ⟨hDa, hDrest⟩ := hD t ht
      have htail := hP.2 t ht
      have hga := hforce s a t h0 hDa ht htail.head
      exact ⟨hga, ih hDrest (hkeep s a t h0 hDa ht hga) htail⟩
  · intro hG
    induction labels generalizing s with
    | nil => exact hIP s h0
    | cons a rest ih =>
      refine ⟨hIP s h0, fun t ht => ?_⟩
      obtain ⟨hDa, hDrest⟩ := hD t ht
      obtain ⟨hga, hGrest⟩ := hG t ht
      exact ih hDrest (hkeep s a t h0 hDa ht hga) hGrest

/-- The exact rule, over labels in `L`. -/
theorem along_iff_stepsMeet {P : σ → Prop} (hIP : ∀ s, I s → P s)
    (hkeep : ∀ s a t, I s → L a → M.step s a = some t → G s a → I t)
    (hforce : ∀ s a t, I s → L a → M.step s a = some t → P t → G s a)
    {labels : List α} (hL : ∀ a ∈ labels, L a) {s : σ} (h0 : I s) :
    M.Along P s labels ↔ M.StepsMeet G s labels :=
  along_iff_stepsMeet_within hIP hkeep hforce
    (StepsMeet.of_labels (fun a ha _ => hL a ha) s) h0

end Guarded

end Machine
end RealtimeGameServer.Lib
