import Mathlib.Data.List.Induction

/-!
# Histories whose elements fit what came before them

A law about the order of a history says of each element what the part before it must
hold. `Fits` is such a law, and a history that grows by one element keeps it exactly
if the new element fits the whole history so far.
-/
namespace RealtimeGameServer.Lib

/-- Every element fits the part of the history before it. -/
def Fits {α : Type*} (law : List α → α → Prop) (history : List α) : Prop :=
  ∀ before x after, history = before ++ x :: after → law before x

namespace Fits
variable {α : Type*} {law : List α → α → Prop}

theorem nil : Fits law [] := by
  intro before x after heq
  cases before <;> cases heq

theorem concat_iff {history : List α} {x : α} :
    Fits law (history ++ [x]) ↔ Fits law history ∧ law history x := by
  constructor
  · intro h
    refine ⟨fun before y after heq => h before y (after ++ [x]) ?_, h history x [] rfl⟩
    rw [heq, List.append_assoc, List.cons_append]
  · rintro ⟨hhistory, hx⟩ before y after heq
    induction after using List.reverseRecOn with
    | nil =>
      obtain ⟨rfl, hlast⟩ := List.append_inj' heq rfl
      rw [← List.singleton_inj.mp hlast]
      exact hx
    | append_singleton after last _ =>
      rw [← List.cons_append, ← List.append_assoc] at heq
      obtain ⟨rfl, -⟩ := List.append_inj' heq rfl
      exact hhistory before y after rfl

/-- A history that goes on fits if what comes later fits the whole history before it. -/
theorem append_iff {history later : List α} :
    Fits law (history ++ later) ↔
      Fits law history ∧ Fits (fun before x => law (history ++ before) x) later := by
  induction later using List.reverseRecOn with
  | nil =>
    rw [List.append_nil]
    exact (and_iff_left nil).symm
  | append_singleton later x ih =>
    rw [← List.append_assoc, concat_iff, concat_iff, ih, and_assoc]

end Fits
end RealtimeGameServer.Lib
