import Mathlib.Logic.Function.Basic
import Mathlib.Data.List.Nodup

/-! # Stores and the writes made to them

A store assigns a value to every key. After a list of writes that names no key twice, each key
named has the value it was named with, and every other key what the store held before. What two
stores agree on after the same writes is therefore what was written, together with what they
agreed on already.
-/

namespace Effects

/-- Writes in the order they are made. -/
abbrev WriteLog (κ β : Type) : Type := List (κ × β)

namespace WriteLog

variable {κ β : Type}

/-- The keys written. -/
def keys (log : WriteLog κ β) : List κ := log.map Prod.fst

@[simp] theorem keys_cons (write : κ × β) (rest : WriteLog κ β) :
    keys (write :: rest) = write.1 :: keys rest := rfl

variable [DecidableEq κ]

/-- The store after the writes. -/
def replay (log : WriteLog κ β) (store : κ → β) : κ → β :=
  log.foldl (fun store write => Function.update store write.1 write.2) store

@[simp] theorem replay_nil (store : κ → β) : replay [] store = store := rfl

@[simp] theorem replay_cons (write : κ × β) (rest : WriteLog κ β) (store : κ → β) :
    replay (write :: rest) store = replay rest (Function.update store write.1 write.2) := rfl

/-- A key that is not written keeps its value. -/
theorem replay_of_notMem {log : WriteLog κ β} {key : κ} (unwritten : key ∉ log.keys)
    (store : κ → β) : log.replay store key = store key := by
  induction log generalizing store with
  | nil => rfl
  | cons write rest ih =>
    rw [keys_cons, List.mem_cons, not_or] at unwritten
    rw [replay_cons, ih unwritten.2, Function.update_of_ne unwritten.1]

/-- A key that is written has one of the values written to it. -/
theorem mem_of_mem_keys {log : WriteLog κ β} {key : κ} (written : key ∈ log.keys)
    (store : κ → β) : (key, log.replay store key) ∈ log := by
  induction log generalizing store with
  | nil => contradiction
  | cons write rest ih =>
    rw [replay_cons]
    by_cases later : key ∈ keys rest
    · exact List.mem_cons_of_mem _ (ih later _)
    · obtain rfl : key = write.1 := by
        rcases List.mem_cons.mp written with same | later'
        · exact same
        · contradiction
      rw [replay_of_notMem later, Function.update_self]
      exact List.mem_cons_self

/-- A key written once has the value written. -/
theorem replay_of_mem {log : WriteLog κ β} {key : κ} {value : β} (once : log.keys.Nodup)
    (written : (key, value) ∈ log) (store : κ → β) : log.replay store key = value := by
  induction log generalizing store with
  | nil => contradiction
  | cons write rest ih =>
    rw [keys_cons, List.nodup_cons] at once
    rw [replay_cons]
    rcases List.mem_cons.mp written with rfl | later
    · rw [replay_of_notMem once.1, Function.update_self]
    · exact ih once.2 later _

/-- A key written once is written with one value. -/
theorem value_unique {log : WriteLog κ β} {key : κ} {first second : β} (once : log.keys.Nodup)
    (written : (key, first) ∈ log) (again : (key, second) ∈ log) : first = second :=
  calc
    first = log.replay (fun _ => first) key := (replay_of_mem once written _).symm
    _ = second := replay_of_mem once again _

/-- The same writes make two stores agree on what is written, and on nothing else. -/
theorem replay_eq_iff (log : WriteLog κ β) (first second : κ → β) (key : κ) :
    log.replay first key = log.replay second key ↔ key ∈ log.keys ∨ first key = second key := by
  induction log generalizing first second with
  | nil => simp [keys]
  | cons write rest ih =>
    rw [replay_cons, replay_cons, ih, keys_cons, List.mem_cons]
    by_cases same : key = write.1
    · subst same
      simp
    · simp [same]

end WriteLog

end Effects
