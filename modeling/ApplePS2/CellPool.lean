import Mathlib.Logic.Function.Basic
import Mathlib.Data.List.Nodup

/- A queue whose cells come from a fixed store: a cell is on the queue or among the
   unused ones, and never on both. What the queue holds is the data of its cells.

   1. `contents_enqueue`, `contents_dequeue`: the pool is a queue with a bound, that drops
      what does not fit.
   2. `perm_enqueue`, `perm_dequeue`: no cell is lost or doubled. -/
namespace CellPool

universe u v

variable {η : Type u} {α : Type v}

/-- The cells, by where they are, and their data. -/
structure Pool (η : Type u) (α : Type v) where
  queue : List η
  unused : List η
  data : η → α
  nodup : (queue ++ unused).Nodup

namespace Pool

/-- All cells. -/
def cells (p : Pool η α) : List η := p.queue ++ p.unused

/-- What is on the queue, first in first. -/
def contents (p : Pool η α) : List α := p.queue.map p.data

/-- All cells unused. -/
def empty (cells : List η) (h : cells.Nodup) (data : η → α) : Pool η α :=
  { queue := [], unused := cells, data := data, nodup := h }

theorem moves_perm (e : η) (queue rest : List η) : (queue ++ [e] ++ rest).Perm (queue ++ e :: rest) := by
  rw [List.append_assoc]
  rfl

/-- The first unused cell takes the datum to the end of the queue. -/
def enqueue [DecidableEq η] (a : α) (p : Pool η α) : Pool η α :=
  match h : p.unused with
  | [] => p
  | e :: rest =>
    { queue := p.queue ++ [e], unused := rest, data := Function.update p.data e a
      nodup := (moves_perm e p.queue rest).nodup_iff.2 (h ▸ p.nodup) }

theorem returns_perm (e : η) (queue unused : List η) : (queue ++ (unused ++ [e])).Perm (e :: queue ++ unused) := by
  rw [← List.append_assoc]
  exact List.perm_append_singleton e (queue ++ unused)

/-- The first cell of the queue gives its datum and is unused from then on. -/
def dequeue (p : Pool η α) : Option α × Pool η α :=
  match h : p.queue with
  | [] => (none, p)
  | e :: queue =>
    (some (p.data e),
      { queue := queue, unused := p.unused ++ [e], data := p.data
        nodup := (returns_perm e queue p.unused).nodup_iff.2 (h ▸ p.nodup) })

section Enqueue

variable [DecidableEq η]

theorem enqueue_full {a : α} {p : Pool η α} (h : p.unused = []) : p.enqueue a = p := by
  unfold enqueue
  split
  · rfl
  · next hcell => rw [h] at hcell; cases hcell

theorem enqueue_free {a : α} {p : Pool η α} {e : η} {rest : List η} (h : p.unused = e :: rest) :
    (p.enqueue a).queue = p.queue ++ [e] ∧ (p.enqueue a).unused = rest ∧
      (p.enqueue a).data = Function.update p.data e a := by
  unfold enqueue
  split
  · next hcell => rw [h] at hcell; cases hcell
  · next hcell =>
    rw [h] at hcell
    obtain ⟨rfl, rfl⟩ := List.cons_eq_cons.1 hcell
    exact ⟨rfl, rfl, rfl⟩

theorem perm_enqueue (a : α) (p : Pool η α) : (p.enqueue a).cells.Perm p.cells := by
  cases h : p.unused with
  | nil => rw [enqueue_full h]
  | cons e rest =>
    obtain ⟨hqueue, hunused, -⟩ := enqueue_free (a := a) h
    rw [cells, cells, hqueue, hunused, h]
    exact moves_perm e p.queue rest

theorem contents_enqueue (a : α) (p : Pool η α) :
    (p.enqueue a).contents = if p.contents.length < p.cells.length then p.contents ++ [a] else p.contents := by
  have hlength : p.contents.length = p.queue.length := List.length_map ..
  have hcells : p.cells.length = p.queue.length + p.unused.length := List.length_append
  cases h : p.unused with
  | nil =>
    rw [h, List.length_nil] at hcells
    rw [enqueue_full h, if_neg (by omega)]
  | cons e rest =>
    rw [h, List.length_cons] at hcells
    obtain ⟨hqueue, -, hdata⟩ := enqueue_free (a := a) h
    have hfresh : e ∉ p.queue := by
      have hnodup := p.nodup
      rw [h] at hnodup
      exact fun he => List.disjoint_of_nodup_append hnodup he List.mem_cons_self
    have hsame : p.queue.map (Function.update p.data e a) = p.contents := by
      rw [List.Nodup.map_update (List.Nodup.of_append_left p.nodup), if_neg hfresh, contents]
    rw [if_pos (by omega), contents, hqueue, hdata, List.map_append, hsame, List.map_cons, Function.update_self]
    rfl

end Enqueue

theorem dequeue_nil {p : Pool η α} (h : p.queue = []) : p.dequeue = (none, p) := by
  unfold dequeue
  split
  · rfl
  · next hcell => rw [h] at hcell; cases hcell

theorem dequeue_cons {p : Pool η α} {e : η} {queue : List η} (h : p.queue = e :: queue) :
    p.dequeue.1 = some (p.data e) ∧ p.dequeue.2.queue = queue ∧ p.dequeue.2.unused = p.unused ++ [e] ∧
      p.dequeue.2.data = p.data := by
  unfold dequeue
  split
  · next hcell => rw [h] at hcell; cases hcell
  · next hcell =>
    rw [h] at hcell
    obtain ⟨rfl, rfl⟩ := List.cons_eq_cons.1 hcell
    exact ⟨rfl, rfl, rfl, rfl⟩

theorem perm_dequeue (p : Pool η α) : p.dequeue.2.cells.Perm p.cells := by
  cases h : p.queue with
  | nil => rw [dequeue_nil h]
  | cons e queue =>
    obtain ⟨-, hqueue, hunused, -⟩ := dequeue_cons h
    rw [cells, cells, hqueue, hunused, h]
    exact returns_perm e queue p.unused

theorem dequeued (p : Pool η α) : p.dequeue.1 = p.contents.head? := by
  cases h : p.queue with
  | nil => rw [dequeue_nil h, contents, h]; rfl
  | cons e queue => rw [(dequeue_cons h).1, contents, h]; rfl

theorem contents_dequeue (p : Pool η α) : p.dequeue.2.contents = p.contents.tail := by
  cases h : p.queue with
  | nil => rw [dequeue_nil h, contents, h]; rfl
  | cons e queue =>
    obtain ⟨-, hqueue, -, hdata⟩ := dequeue_cons h
    rw [contents, hqueue, hdata, contents, h]
    rfl

end Pool

end CellPool
