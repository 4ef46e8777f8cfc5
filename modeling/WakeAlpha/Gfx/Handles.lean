import WakeAlpha.Gfx.Lifecycle
import WakeAlpha.Slots.Registry

set_option autoImplicit false

namespace WakeAlpha.Gfx

open WakeAlpha.Slots

-- A store as the registry it stands for: lives counts without overflow what gen_ctrs counts with it.
structure Represents {α : Type} (num : Nat) (s : SgStore α) (r : Registry Nat (SgResourceState × α)) : Prop where
  ctr : ∀ index, 0 < index → index ≤ num → (s.pool.genCtrs index).toNat = r.lives index % 2 ^ 32
  free : ∀ index ∈ s.pool.freeQueue, r.held index = none
  used : ∀ index, 0 < index → index ≤ num → s.Used index → r.held index = some ((s.slot index).state, s.body index)

def ticketId (t : Ticket Nat) : UInt32 := slotId (UInt32.ofNat t.life) t.index

section Store

variable {α : Type} {num : Nat} {s next : SgStore α} {r : Registry Nat (SgResourceState × α)}

-- Every store represents some registry: the lives may be counted from the counters on.
theorem represented (inv : s.Inv num) : ∃ r, Represents num s r ∧ ∀ index, r.lives index = (s.pool.genCtrs index).toNat := by
  refine ⟨⟨fun index => (s.pool.genCtrs index).toNat, fun index =>
    if index ∈ s.pool.freeQueue then none else some ((s.slot index).state, s.body index)⟩, ⟨?_, ?_, ?_⟩, fun _ => rfl⟩
  · intro index pos le
    have bound := (s.pool.genCtrs index).toNat_lt
    exact (Nat.mod_eq_of_lt bound).symm
  · intro index queued
    simp [queued]
  · intro index pos le used
    simp [used_not_free inv used]

theorem move_simulated {starts index : Nat} (inv : s.Inv num) (rep : Represents num s r)
    (move : Move s starts index next) :
    ∃ r', Step r r' ∧ Represents num next r' ∧ ∀ other, r'.lives other ≤ r.lives other + starts := by
  have nextInv := move_inv inv move
  cases move with
  | alloc _ rest queue =>
      obtain ⟨pos, le, -⟩ := inv.free index (by simp [queue])
      refine ⟨r.issue index (.alloc, s.body index), .issue r index _ (rep.free index (by simp [queue])), ⟨?_, ?_, ?_⟩, ?_⟩
      · intro other otherPos otherLe
        by_cases same : other = index
        · subst same
          have before := rep.ctr other pos le
          simp only [SgStore.allocAt, put_pool, Registry.issue, Function.update_self, UInt32.toNat_add]
          have one : (1 : UInt32).toNat = 1 := rfl
          rw [before, one]
          omega
        · rw [alloc_ctr_other s rest same]
          simp only [Registry.issue, Function.update_of_ne same]
          exact rep.ctr other otherPos otherLe
      · intro other queued
        have nodup := inv.nodup
        rw [queue, List.nodup_cons] at nodup
        have ne : other ≠ index := fun same => nodup.1 (same ▸ queued)
        simp only [Registry.issue, Function.update_of_ne ne]
        exact rep.free other (by rw [queue]; exact List.mem_cons_of_mem _ queued)
      · intro other otherPos otherLe used
        by_cases same : other = index
        · subst same
          simp [Registry.issue, SgStore.allocAt, SgStore.body, SgStore.slot, SgStore.put]
        · simp only [Registry.issue, Function.update_of_ne same, SgStore.allocAt, put_slot_other _ _ same,
            put_body_other _ _ same]
          have absent := used_not_free nextInv used
          have kept : other ∉ s.pool.freeQueue := by
            rw [queue, List.mem_cons, not_or]
            exact ⟨same, absent⟩
          exact rep.used other otherPos otherLe (inv.used other otherPos otherLe kept)
      · intro other
        by_cases same : other = index
        · subst same
          simp [Registry.issue]
        · simp [Registry.issue, Function.update_of_ne same]
  | free _ pos inside used =>
      have le : index ≤ num := by
        have sizes := inv.size
        omega
      refine ⟨r.release index, .release r index _ (rep.used index pos le used), ⟨rep.ctr, ?_, ?_⟩, fun _ => Nat.le_refl _⟩
      · intro other queued
        by_cases same : other = index
        · simp [Registry.release, same]
        · simp only [Registry.release, Function.update_of_ne same]
          rcases List.mem_cons.mp queued with head | tail
          · exact absurd head same
          · exact rep.free other tail
      · intro other otherPos otherLe otherUsed
        have absent := used_not_free nextInv otherUsed
        have apart : other ≠ index ∧ other ∉ s.pool.freeQueue := by
          simpa [SgStore.freeAt] using absent
        simp only [Registry.release, Function.update_of_ne apart.1, SgStore.freeAt, put_slot_other _ _ apart.1,
          put_body_other _ _ apart.1]
        exact rep.used other otherPos otherLe (inv.used other otherPos otherLe apart.2)
  | put _ item pos inside used same live =>
      have le : index ≤ num := by
        have sizes := inv.size
        omega
      refine ⟨r.write index (item.slot.state, item.body), .write r index _ _ (rep.used index pos le used),
        ⟨rep.ctr, ?_, ?_⟩, fun _ => Nat.le_refl _⟩
      · intro other queued
        have ne : other ≠ index := fun eq => used_not_free inv used (eq ▸ queued)
        simp only [Registry.write, Function.update_of_ne ne]
        exact rep.free other queued
      · intro other otherPos otherLe otherUsed
        by_cases eq : other = index
        · subst eq
          simp [Registry.write]
        · simp only [Registry.write, Function.update_of_ne eq, put_slot_other _ _ eq, put_body_other _ _ eq]
          exact rep.used other otherPos otherLe
            (inv.used other otherPos otherLe (used_not_free nextInv otherUsed))

theorem moves_simulated {n : Nat} {allowed : Nat → SgItem α → Prop} (inv : s.Inv num) (rep : Represents num s r)
    (moves : Moves allowed s n next) :
    ∃ r', Steps r r' ∧ Represents num next r' ∧ ∀ other, r'.lives other ≤ r.lives other + n := by
  induction moves with
  | refl => exact ⟨r, .refl, rep, fun _ => Nat.le_refl _⟩
  | tail moves move ok ih =>
      obtain ⟨r', steps, rep', grown⟩ := ih
      obtain ⟨r'', step, rep'', last⟩ := move_simulated (moves_inv inv moves) rep' move
      refine ⟨r'', steps.tail step, rep'', fun other => ?_⟩
      have first := grown other
      have second := last other
      omega

-- An id finds what the registry resolves from its two halves.
theorem lookup_resolves (inv : s.Inv num) (rep : Represents num s r) {t : Ticket Nat} (pos : 0 < t.index)
    (le : t.index ≤ num) :
    s.lookup (ticketId t) =
      some (if (r.resolve 65536 t.index (t.life % 65536)).isSome then some t.index else none) := by
  have small : t.index < 65536 := by
    have bound := inv.small
    omega
  have back : slotIndexOf (ticketId t) = t.index := slot_index_of_slot_id _ small
  have life : (UInt32.ofNat t.life).toNat % 65536 = t.life % 65536 := by
    rw [UInt32.toNat_ofNat']
    omega
  have sizes := inv.size
  rw [lookup_in_range s (by rw [back]; exact pos) (by rw [back]; omega), back]
  by_cases queued : t.index ∈ s.pool.freeQueue
  · have blank := (inv.free t.index queued).2.2
    have ne : ¬ (s.slot t.index).id = ticketId t := by
      rw [blank]
      exact fun zero => slot_id_ne_zero _ pos small zero.symm
    simp [ne, Registry.resolve, rep.free t.index queued]
  · have used := inv.used t.index pos le queued
    have same : (s.slot t.index).id = ticketId t ↔ r.lives t.index % 65536 = t.life % 65536 := by
      have ctr := rep.ctr t.index pos le
      rw [used.id, ticketId, slot_id_eq_iff _ _ small small, life, ctr]
      omega
    simp only [Registry.resolve, same, rep.used t.index pos le used]
    by_cases code : r.lives t.index % 65536 = t.life % 65536
    · simp [code]
    · simp [code]

theorem fresh_represents [Inhabited α] (num : Nat) :
    Represents num (SgStore.fresh num : SgStore α) (Registry.empty : Registry Nat (SgResourceState × α)) := by
  refine ⟨fun _ _ _ => rfl, fun _ _ => rfl, ?_⟩
  intro index pos le used
  have live := used.live
  simp [SgStore.fresh, SgStore.slot, SgResourceState.Live] at live

end Store

variable {size : Kind → Nat} {s next final : SgState} {k : Kind} {id : UInt32}

def startsIn (k : Kind) (calls : List SgCall) : Nat := (calls.map (SgCall.starts k)).sum

theorem run_simulated {calls : List SgCall} {r : Registry Nat (SgResourceState × Body k)} (inv : s.Inv size)
    (rep : Represents (size k) (s.store k) r) (done : sgRun s calls = some final) :
    ∃ r', Steps r r' ∧ Represents (size k) (final.store k) r' ∧
      ∀ index, r'.lives index ≤ r.lives index + startsIn k calls := by
  induction calls generalizing s r with
  | nil =>
      cases done
      exact ⟨r, .refl, rep, fun _ => Nat.le_add_right _ _⟩
  | cons call rest ih =>
      obtain ⟨middle, step, done⟩ := run_cons_some done
      obtain ⟨n, le, moves⟩ := step_moves inv step k
      obtain ⟨r', first, rep', grown⟩ := moves_simulated (inv k) rep moves
      obtain ⟨r'', second, rep'', later⟩ := ih (step_inv inv step) rep' done
      refine ⟨r'', first.trans second, rep'', fun index => ?_⟩
      have one := grown index
      have two := later index
      simp only [startsIn, List.map_cons, List.sum_cons] at two ⊢
      omega

theorem destroyed_queue {index : Nat} (inv : s.Inv size) (found : (s.store k).Found id index)
    (done : sgDestroy k id s = some next) :
    (next.store k).pool.freeQueue = index :: (s.store k).pool.freeQueue ∧
      (next.store k).pool.genCtrs = (s.store k).pool.genCtrs ∧ next.valid = s.valid := by
  rcases destroy_result inv done with ⟨missing, -⟩ | ⟨place, same, base, -, kept, body, rfl⟩
  · rw [found_lookup found] at missing
    cases missing
  · have eq : place = index := same.named.trans found.named.symm
    subst eq
    refine ⟨?_, ?_, kept.valid⟩
    · simp [SgStore.freeAt]
    · simp [SgStore.freeAt]

-- A destroyed handle stays dead for as long as fewer than 65536 resources of its kind are made.
theorem stale_handle_dead {index : Nat} {calls : List SgCall} (inv : s.Inv size)
    (found : (s.store k).lookup id = some (some index)) (destroyed : sgDestroy k id s = some next)
    (done : sgRun next calls = some final) (few : startsIn k calls < 65536) :
    (final.store k).lookup id = some none := by
  have at_ := lookup_found (inv k) found
  obtain ⟨queue, ctrs, -⟩ := destroyed_queue inv at_ destroyed
  have inv' : next.Inv size := step_inv inv (show sgStep s (.destroy k id) = some next from destroyed)
  obtain ⟨r, rep, lives⟩ := represented (inv' k)
  have sizes := (inv k).size
  have inside := at_.inside
  have small := (inv k).small
  have le : index ≤ size k := by omega
  have issued : r.lives index = ((s.store k).pool.genCtrs index).toNat := by rw [lives, ctrs]
  have same : ticketId (r.ticket index) = id := by
    rw [ticketId, Registry.ticket, issued, UInt32.ofNat_toNat, ← at_.used.id]
    exact at_.id
  have spent : r.Spent (r.ticket index) := by
    refine ⟨Nat.le_refl _, ?_⟩
    rw [find_ticket]
    exact rep.free index (by simp [queue])
  obtain ⟨r', steps, rep', grown⟩ := run_simulated inv' rep done
  have bound := grown index
  have near : r'.lives index < (r.ticket index).life + 65536 := by
    change r'.lives index < r.lives index + 65536
    omega
  rw [← same, lookup_resolves (run_inv inv' done k) rep' at_.pos le, resolve_spent (steps_spent steps spent) near]
  rfl

theorem first_buffer_stale : ∃ s next final, sgDestroy .buffer 65537 s = some next ∧
    sgRun next [dynamicBuffer] = some final ∧
    (s.store .buffer).lookup 65537 = some (some 1) ∧ (final.store .buffer).lookup 65537 = some none := by
  obtain ⟨start, s, started, made, checked⟩ := small_run [dynamicBuffer]
    (fun s => decide ((s.store .buffer).lookup 65537 = some (some 1)) &&
      (sgRun s [.destroy .buffer 65537, dynamicBuffer]).isSome) rfl
  rw [Bool.and_eq_true, decide_eq_true_eq] at checked
  obtain ⟨final, both⟩ := Option.isSome_iff_exists.mp checked.2
  obtain ⟨next, destroyed, done⟩ := run_cons_some both
  have inv := run_inv (started_inv (setup_result started)) made
  exact ⟨s, next, final, destroyed, done, checked.1, stale_handle_dead inv checked.1 destroyed done (by decide)⟩

theorem starts_append (k : Kind) (first second : List SgCall) :
    startsIn k (first ++ second) = startsIn k first + startsIn k second := by
  simp [startsIn]

theorem alloc_some {index : Nat} {rest : List Nat} (inv : s.Inv size) (valid : s.valid = true)
    (queue : (s.store k).pool.freeQueue = index :: rest) :
    sgStep s (.alloc k) = some (s.setStore k ((s.store k).allocAt index rest)) := by
  obtain ⟨pos, le, -⟩ := (inv k).free index (by simp [queue])
  have small := (inv k).small
  have named := slot_id_ne_zero ((s.store k).pool.genCtrs index + 1) pos (by omega)
  simp only [sgStep, sgAlloc, assert_bind valid, alloc_next (inv k) queue]
  simp [named]

-- One life more of the slot at the head of the queue: it is taken and put back.
theorem reuse_once {index : Nat} {rest : List Nat} (inv : s.Inv size) (valid : s.valid = true)
    (queue : (s.store k).pool.freeQueue = index :: rest) :
    ∃ calls again, startsIn k calls = 1 ∧ sgRun s calls = some again ∧ again.Inv size ∧ again.valid = true ∧
      (again.store k).pool.freeQueue = index :: rest ∧
      (again.store k).pool.genCtrs index = (s.store k).pool.genCtrs index + 1 := by
  obtain ⟨pos, le, -⟩ := (inv k).free index (by simp [queue])
  have small := (inv k).small
  have sizes := (inv k).size
  have taken := alloc_some inv valid queue
  have takenInv := step_inv inv taken
  have used := alloc_used_self (s.store k) index rest
  have inside : index < ((s.store k).allocAt index rest).pool.size := by
    change index < (s.store k).pool.size
    omega
  have found : ((s.store k).allocAt index rest).Found (slotId ((s.store k).pool.genCtrs index + 1) index) index := by
    refine ⟨(slot_index_of_slot_id _ (by omega)).symm, pos, inside, ?_, used⟩
    rw [used.id]
    simp [SgStore.allocAt]
  have state : (((s.store k).allocAt index rest).slot index).state = .alloc := by simp [SgStore.allocAt]
  have storeInv : ((s.store k).allocAt index rest).Inv (size k) := by
    have inner := takenInv k
    rwa [set_store_self] at inner
  have back : sgStep (s.setStore k ((s.store k).allocAt index rest))
      (.dealloc k (slotId ((s.store k).pool.genCtrs index + 1) index)) =
        some ((s.setStore k ((s.store k).allocAt index rest)).setStore k
          (((s.store k).allocAt index rest).freeAt index)) := by
    have still : (s.setStore k ((s.store k).allocAt index rest)).valid = true := valid
    simp only [sgStep, sgDealloc, assert_bind still, set_store_self, found_lookup found, Option.bind_eq_bind,
      Option.bind_some, state, if_true, dealloc_used storeInv pos inside used state]
    rfl
  refine ⟨[.alloc k, .dealloc k (slotId ((s.store k).pool.genCtrs index + 1) index)], _, ?_, ?_,
    step_inv takenInv back, valid, ?_, ?_⟩
  · simp [startsIn, SgCall.starts]
  · rw [run_next _ taken, run_next _ back]
    rfl
  · simp [SgStore.freeAt, SgStore.allocAt]
  · simp [SgStore.freeAt, SgStore.allocAt]

theorem reuse {index : Nat} {rest : List Nat} (n : Nat) (inv : s.Inv size) (valid : s.valid = true)
    (queue : (s.store k).pool.freeQueue = index :: rest) :
    ∃ calls again, startsIn k calls = n ∧ sgRun s calls = some again ∧ again.Inv size ∧ again.valid = true ∧
      (again.store k).pool.freeQueue = index :: rest ∧
      ((again.store k).pool.genCtrs index).toNat = (((s.store k).pool.genCtrs index).toNat + n) % 2 ^ 32 := by
  induction n with
  | zero =>
      have bound := ((s.store k).pool.genCtrs index).toNat_lt
      exact ⟨[], s, rfl, rfl, inv, valid, queue, (Nat.mod_eq_of_lt bound).symm⟩
  | succ n ih =>
      obtain ⟨calls, middle, count, reached, inv', valid', queue', ctr⟩ := ih
      obtain ⟨more, again, one, last, inv'', valid'', queue'', ctr'⟩ := reuse_once inv' valid' queue'
      refine ⟨calls ++ more, again, ?_, ?_, inv'', valid'', queue'', ?_⟩
      · rw [starts_append, count, one]
      · rw [run_then _ reached, last]
      · have single : (1 : UInt32).toNat = 1 := rfl
        rw [ctr', UInt32.toNat_add, ctr, single]
        omega

-- The bound is sharp: the 65536th reuse of its slot brings a destroyed handle back to life.
theorem stale_handle_revived {index : Nat} (inv : s.Inv size) (valid : s.valid = true)
    (found : (s.store k).lookup id = some (some index)) (destroyed : sgDestroy k id s = some next) :
    ∃ calls final, startsIn k calls = 65536 ∧ sgRun next calls = some final ∧
      (final.store k).lookup id = some (some index) := by
  have at_ := lookup_found (inv k) found
  obtain ⟨queue, ctrs, same⟩ := destroyed_queue inv at_ destroyed
  have inv' : next.Inv size := step_inv inv (show sgStep s (.destroy k id) = some next from destroyed)
  obtain ⟨calls, again, count, reached, inv'', valid'', queue', ctr⟩ := reuse 65535 inv' (same.trans valid) queue
  have sizes := (inv k).size
  have small := (inv k).small
  have inside := at_.inside
  have last := alloc_some inv'' valid'' queue'
  refine ⟨calls ++ [.alloc k], again.setStore k ((again.store k).allocAt index (s.store k).pool.freeQueue), ?_,
    (run_then _ reached).trans ?_, ?_⟩
  · rw [starts_append, count]
    simp [startsIn, SgCall.starts]
  · rw [run_next _ last]
    rfl
  · refine found_lookup ?_
    rw [set_store_self]
    have sizes' := (inv'' k).size
    have used := alloc_used_self (again.store k) index (s.store k).pool.freeQueue
    refine ⟨at_.named, at_.pos, ?_, ?_, used⟩
    · change index < (again.store k).pool.size
      omega
    · have single : (1 : UInt32).toNat = 1 := rfl
      rw [used.id, ← at_.id, at_.used.id, slot_id_eq_iff _ _ (by omega) (by omega)]
      refine ⟨rfl, ?_⟩
      rw [show ((again.store k).allocAt index (s.store k).pool.freeQueue).pool.genCtrs index =
        (again.store k).pool.genCtrs index + 1 by simp [SgStore.allocAt], UInt32.toNat_add, ctr, ctrs, single]
      omega

theorem first_buffer_revived : ∃ s next calls final, sgDestroy .buffer 65537 s = some next ∧
    startsIn .buffer calls = 65536 ∧ sgRun next calls = some final ∧
    (final.store .buffer).lookup 65537 = some (some 1) := by
  obtain ⟨start, s, started, made, checked⟩ := small_run [dynamicBuffer]
    (fun s => decide ((s.store .buffer).lookup 65537 = some (some 1)) && (sgDestroy .buffer 65537 s).isSome) rfl
  rw [Bool.and_eq_true, decide_eq_true_eq] at checked
  obtain ⟨next, destroyed⟩ := Option.isSome_iff_exists.mp checked.2
  have begun := setup_result started
  have inv := run_inv (started_inv begun) made
  have valid := (run_valid (started_inv begun) made).trans begun.valid
  obtain ⟨calls, final, count, done, alive⟩ := stale_handle_revived inv valid checked.1 destroyed
  exact ⟨s, next, calls, final, destroyed, count, done, alive⟩

end WakeAlpha.Gfx
