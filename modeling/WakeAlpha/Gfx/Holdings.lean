import Mathlib.Order.BooleanAlgebra.Set
import WakeAlpha.Gfx.Total
import WakeAlpha.Slots.Ledger

set_option autoImplicit false

namespace WakeAlpha.Gfx

open WakeAlpha.Slots

-- The handles that name something in a store.
def SgStore.handles {α : Type} (s : SgStore α) : Set UInt32 := {id | ∃ index, s.Found id index}

section Store

variable {α : Type} {num : Nat} {s : SgStore α} {id : UInt32}

-- They are the ids of the slots that are not queued.
theorem handles_iff (inv : s.Inv num) :
    id ∈ s.handles ↔ ∃ index, 0 < index ∧ index ≤ num ∧ index ∉ s.pool.freeQueue ∧ (s.slot index).id = id := by
  have sizes := inv.size
  constructor
  · rintro ⟨index, found⟩
    have inside := found.inside
    exact ⟨index, found.pos, by omega, used_not_free inv found.used, found.id⟩
  · rintro ⟨index, pos, le, taken, rfl⟩
    have small := inv.small
    have used := inv.used index pos le taken
    refine ⟨index, ?_, pos, by omega, rfl, used⟩
    rw [used.id, slot_index_of_slot_id _ (by omega)]

theorem alloc_handles {index : Nat} {rest : List Nat} (inv : s.Inv num) (queue : s.pool.freeQueue = index :: rest) :
    slotId (s.pool.genCtrs index + 1) index ∉ s.handles ∧
      (s.allocAt index rest).handles = insert (slotId (s.pool.genCtrs index + 1) index) s.handles := by
  obtain ⟨pos, le, -⟩ := inv.free index (by simp [queue])
  have small := inv.small
  have nodup := inv.nodup
  rw [queue, List.nodup_cons] at nodup
  have self : ((s.allocAt index rest).slot index).id = slotId (s.pool.genCtrs index + 1) index := by
    simp [SgStore.allocAt]
  constructor
  · intro before
    obtain ⟨other, otherPos, otherLe, taken, same⟩ := (handles_iff inv).mp before
    have used := inv.used other otherPos otherLe taken
    rw [used.id, slot_id_eq_iff _ _ (by omega) (by omega)] at same
    exact taken (by rw [queue, same.1]; simp)
  · ext id
    rw [handles_iff (move_inv inv (.alloc index rest queue)), Set.mem_insert_iff, handles_iff inv]
    constructor
    · rintro ⟨other, otherPos, otherLe, taken, rfl⟩
      by_cases same : other = index
      · subst same
        exact Or.inl self
      · have absent : other ∉ s.pool.freeQueue := by
          rw [queue, List.mem_cons, not_or]
          exact ⟨same, taken⟩
        rw [alloc_slot_other s rest same]
        exact Or.inr ⟨other, otherPos, otherLe, absent, rfl⟩
    · rintro (rfl | ⟨other, otherPos, otherLe, taken, rfl⟩)
      · exact ⟨index, pos, le, nodup.1, self⟩
      · rw [queue, List.mem_cons, not_or] at taken
        exact ⟨other, otherPos, otherLe, taken.2, congrArg SgSlot.id (alloc_slot_other s rest taken.1)⟩

theorem free_handles {index : Nat} (inv : s.Inv num) (found : s.Found id index) :
    (s.freeAt index).handles = s.handles \ {id} := by
  have sizes := inv.size
  have small := inv.small
  have inside := found.inside
  ext other
  rw [handles_iff (move_inv inv (.free index found.pos found.inside found.used)), Set.mem_sdiff, handles_iff inv,
    Set.mem_singleton_iff]
  change (∃ place, 0 < place ∧ place ≤ num ∧ place ∉ index :: s.pool.freeQueue ∧ _) ↔ _
  constructor
  · rintro ⟨place, pos, le, taken, rfl⟩
    rw [List.mem_cons, not_or] at taken
    rw [free_slot_other s taken.1]
    refine ⟨⟨place, pos, le, taken.2, rfl⟩, ?_⟩
    intro same
    rw [(inv.used place pos le taken.2).id, ← found.id, found.used.id, slot_id_eq_iff _ _ (by omega) (by omega)] at same
    exact taken.1 same.1
  · rintro ⟨⟨place, pos, le, taken, rfl⟩, ne⟩
    have apart : place ≠ index := by
      rintro rfl
      exact ne found.id
    refine ⟨place, pos, le, ?_, congrArg SgSlot.id (free_slot_other s apart)⟩
    rw [List.mem_cons, not_or]
    exact ⟨apart, taken⟩

theorem put_handles {index : Nat} {item : SgItem α} (inv : s.Inv num) (pos : 0 < index) (inside : index < s.pool.size)
    (used : s.Used index) (same : item.slot.id = (s.slot index).id) (live : item.slot.state.Live) :
    (s.put index item).handles = s.handles := by
  have ids (place : Nat) : ((s.put index item).slot place).id = (s.slot place).id := by
    by_cases eq : place = index
    · subst eq
      rw [put_slot_self, same]
    · rw [put_slot_other _ _ eq]
  ext id
  rw [handles_iff (move_inv inv (.put index item pos inside used same live)), handles_iff inv]
  simp only [put_pool, ids]

end Store

-- A handle with its kind.
abbrev Handle := Kind × UInt32

def SgState.handles (s : SgState) : Set Handle := {h | h.2 ∈ (s.store h.1).handles}

variable {size : Kind → Nat} {s next final : SgState} {k : Kind} {id : UInt32}

theorem handle_named {h : Handle} (used : h ∈ s.handles) : h.2 ≠ 0 := by
  obtain ⟨index, found⟩ := used
  intro zero
  have named := found.named
  have pos := found.pos
  rw [zero] at named
  simp [slotIndexOf] at named
  omega

theorem handle_in_range {h : Handle} (inv : s.Inv size) (used : h ∈ s.handles) : InRange size h.1 h.2 := by
  obtain ⟨index, found⟩ := used
  have sizes := (inv h.1).size
  have inside := found.inside
  have pos := found.pos
  have named := found.named
  subst named
  exact Or.inr ⟨pos, by omega⟩

-- The handle that the program is given, none when the pool is exhausted.
def issued (k : Kind) (result : Checked (UInt32 × SgState)) : Option Handle :=
  result.bind fun (id, _) => if id = 0 then none else some (k, id)

def SgCall.given (s : SgState) : SgCall → Option Handle
  | .alloc k => issued k (sgAlloc k s)
  | .make k desc reply => issued k (sgMake k desc reply s)
  | _ => none

-- The handle whose life a call ends, if it names anything.
def SgCall.ended (s : SgState) : SgCall → Option Handle
  | .destroy k id => some (k, id)
  | .dealloc k id => if ((s.store k).slot (slotIndexOf id)).state = .alloc then some (k, id) else none
  | _ => none

-- What a call makes of a set of handles.
def SgCall.onHandles (call : SgCall) (s : SgState) (handles : Set Handle) : Set Handle :=
  {h | (h ∈ handles ∧ call.ended s ≠ some h) ∨ call.given s = some h}

theorem idle_on_handles {call : SgCall} (ends : call.ended s = none) (gives : call.given s = none) (handles : Set Handle) :
    call.onHandles s handles = handles := by
  ext h
  simp [SgCall.onHandles, ends, gives]

theorem set_store_mem {base : SgState} {store : SgStore (Body k)} (same : base.store = s.store) (other : Kind)
    (id : UInt32) :
    (other, id) ∈ (base.setStore k store).handles ↔
      if other = k then id ∈ store.handles else (other, id) ∈ s.handles := by
  by_cases eq : other = k
  · subst eq
    rw [if_pos rfl]
    change id ∈ ((base.setStore other store).store other).handles ↔ _
    rw [set_store_self]
  · rw [if_neg eq]
    change id ∈ ((base.setStore k store).store other).handles ↔ _
    rw [set_store_other _ _ eq, same]
    exact Iff.rfl

theorem store_insert {base : SgState} {store : SgStore (Body k)} (same : base.store = s.store)
    (inserted : store.handles = insert id (s.store k).handles) :
    (base.setStore k store).handles = insert (k, id) s.handles := by
  ext ⟨other, named⟩
  rw [set_store_mem same, Set.mem_insert_iff, Prod.mk.injEq]
  by_cases eq : other = k
  · subst eq
    rw [if_pos rfl, inserted]
    simp [SgState.handles]
  · simp [eq]

theorem store_remove {base : SgState} {store : SgStore (Body k)} (same : base.store = s.store)
    (removed : store.handles = (s.store k).handles \ {id}) :
    (base.setStore k store).handles = s.handles \ {(k, id)} := by
  ext ⟨other, named⟩
  rw [set_store_mem same, Set.mem_sdiff, Set.mem_singleton_iff, Prod.mk.injEq]
  by_cases eq : other = k
  · subst eq
    rw [if_pos rfl, removed]
    simp [SgState.handles]
  · simp [eq]

theorem store_kept {base : SgState} {store : SgStore (Body k)} (same : base.store = s.store)
    (kept : store.handles = (s.store k).handles) : (base.setStore k store).handles = s.handles := by
  ext ⟨other, named⟩
  rw [set_store_mem same]
  by_cases eq : other = k
  · subst eq
    rw [if_pos rfl, kept]
    exact Iff.rfl
  · rw [if_neg eq]

theorem put_kept {base : SgState} {index : Nat} {item : SgItem (Body k)} (inv : s.Inv size)
    (same : base.store = s.store) (found : (s.store k).Found id index) (ids : item.slot.id = ((s.store k).slot index).id)
    (live : item.slot.state.Live) : (base.setStore k ((s.store k).put index item)).handles = s.handles :=
  store_kept same (put_handles (inv k) found.pos found.inside found.used ids live)

theorem init_item_handles {index : Nat} {desc : Desc k} {reply : InitReply} (inv : s.Inv size) (pos : 0 < index)
    (inside : index < (s.store k).pool.size) (used : (s.store k).Used index)
    (done : initItem k index desc reply s = some next) : next.handles = s.handles := by
  obtain ⟨-, done⟩ := assert_some done
  obtain ⟨⟨state, body⟩, -, done⟩ := bind_some done
  obtain ⟨settled, done⟩ := assert_some done
  cases done
  exact store_kept rfl (put_handles (inv k) pos inside used rfl (Or.inr settled))

theorem alloc_result_handles (inv : s.Inv size) (done : sgAlloc k s = some (id, next)) :
    (id = 0 ∧ next.handles = s.handles) ∨
      (id ≠ 0 ∧ (k, id) ∉ s.handles ∧ next.handles = insert (k, id) s.handles) := by
  rcases alloc_result inv done with ⟨-, rfl, rfl⟩ | ⟨index, rest, queue, rfl, rfl⟩
  · exact Or.inl ⟨rfl, rfl⟩
  · obtain ⟨pos, le, -⟩ := (inv k).free index (by simp [queue])
    have small := (inv k).small
    obtain ⟨fresh, inserted⟩ := alloc_handles (inv k) queue
    exact Or.inr ⟨slot_id_ne_zero _ pos (by omega), fresh, store_insert rfl inserted⟩

theorem make_result_handles {desc : Desc k} {reply : InitReply} (inv : s.Inv size)
    (done : sgMake k desc reply s = some (id, next)) :
    (id = 0 ∧ next.handles = s.handles) ∨
      (id ≠ 0 ∧ (k, id) ∉ s.handles ∧ next.handles = insert (k, id) s.handles) := by
  obtain ⟨⟨made, allocated⟩, allocates, -⟩ := bind_some done
  rcases make_result inv done with ⟨-, rfl, rfl⟩ | ⟨index, rest, queue, rfl, settled⟩
  · exact Or.inl ⟨rfl, rfl⟩
  · obtain ⟨pos, le, -⟩ := (inv k).free index (by simp [queue])
    have small := (inv k).small
    have sizes := (inv k).size
    obtain ⟨fresh, inserted⟩ := alloc_handles (inv k) queue
    have inv' : (s.setStore k ((s.store k).allocAt index rest)).Inv size := by
      intro other
      by_cases same : other = k
      · subst same
        rw [set_store_self]
        exact move_inv (inv other) (.alloc index rest queue)
      · rw [set_store_other _ _ same]
        exact inv other
    have still := init_item_handles inv' pos
      (show index < _ by rw [set_store_self]; change index < (s.store k).pool.size; omega)
      (by rw [set_store_self]; exact alloc_used_self _ _ _) settled
    rw [store_insert rfl inserted] at still
    exact Or.inr ⟨slot_id_ne_zero _ pos (by omega), fresh, still⟩

theorem destroy_result_handles (inv : s.Inv size) (done : sgDestroy k id s = some next) :
    next.handles = s.handles \ {(k, id)} := by
  rcases destroy_result inv done with ⟨missing, rfl⟩ | ⟨index, found, base, same, -, body, rfl⟩
  · ext h
    rw [Set.mem_sdiff, Set.mem_singleton_iff]
    refine ⟨fun member => ⟨member, ?_⟩, And.left⟩
    rintro rfl
    obtain ⟨index, found⟩ := member
    rw [found_lookup found] at missing
    cases missing
  · have live : SgResourceState.Live .alloc := Or.inl rfl
    have put : ((s.store k).put index ⟨{ id := id, state := .alloc }, body⟩).handles = (s.store k).handles :=
      put_handles (inv k) found.pos found.inside found.used found.id.symm live
    have inv' := move_inv (inv k) (.put index ⟨{ id := id, state := .alloc }, body⟩ found.pos found.inside found.used
      found.id.symm live)
    have still := found_of_slot (inv k) inv' found (by rw [put_slot_self, found.id])
    refine store_remove same ?_
    rw [free_handles inv' still, put]

-- The handles after a call, and that a handle which is given was not in use.
structure HandlesAfter (call : SgCall) (s next : SgState) : Prop where
  handles : next.handles = call.onHandles s s.handles
  fresh : ∀ h, call.given s = some h → h ∉ s.handles

theorem handles_kept {call : SgCall} (ends : call.ended s = none) (gives : call.given s = none)
    (same : next.handles = s.handles) : HandlesAfter call s next := by
  refine ⟨same.trans (idle_on_handles ends gives _).symm, ?_⟩
  rw [gives]
  exact fun _ => nofun

theorem handle_issued {call : SgCall} (ends : call.ended s = none) (gives : call.given s = issued k (some (id, next)))
    (result : (id = 0 ∧ next.handles = s.handles) ∨
      (id ≠ 0 ∧ (k, id) ∉ s.handles ∧ next.handles = insert (k, id) s.handles)) : HandlesAfter call s next := by
  rcases result with ⟨rfl, same⟩ | ⟨named, fresh, inserted⟩
  · exact handles_kept ends gives same
  · have given : call.given s = some (k, id) := by simp [gives, issued, named]
    constructor
    · ext h
      rw [inserted]
      simp [SgCall.onHandles, ends, given, or_comm, eq_comm]
    · rintro h same
      rw [given] at same
      cases same
      exact fresh

theorem handle_ended {call : SgCall} (ends : call.ended s = some (k, id)) (gives : call.given s = none)
    (removed : next.handles = s.handles \ {(k, id)}) : HandlesAfter call s next := by
  constructor
  · ext h
    rw [removed]
    simp [SgCall.onHandles, ends, gives, eq_comm]
  · rw [gives]
    exact fun _ => nofun

theorem handle_stale {call : SgCall} (ends : call.ended s = none ∨ call.ended s = some (k, id))
    (gives : call.given s = none) (missing : (k, id) ∉ s.handles) : HandlesAfter call s s := by
  rcases ends with none_ | ends
  · exact handles_kept none_ gives rfl
  · exact handle_ended ends gives (Set.sdiff_singleton_eq_self missing).symm

theorem missing_handle (missing : (s.store k).lookup id = some none) : (k, id) ∉ s.handles := by
  rintro ⟨index, found⟩
  rw [found_lookup found] at missing
  cases missing

theorem dealloc_handles (inv : s.Inv size) (done : sgDealloc k id s = some next) :
    HandlesAfter (.dealloc k id) s next := by
  obtain ⟨-, done⟩ := assert_some done
  obtain ⟨answer, looked, done⟩ := bind_some done
  cases answer with
  | none =>
      cases done
      exact handle_stale ((ite_eq_or_eq ..).symm) rfl (missing_handle looked)
  | some index =>
      have found := lookup_found (inv k) looked
      have named := found.named
      subst named
      dsimp only at done
      by_cases state : ((s.store k).slot (slotIndexOf id)).state = .alloc
      · rw [if_pos state, dealloc_used (inv k) found.pos found.inside found.used state] at done
        cases done
        exact handle_ended (if_pos state) rfl (store_remove rfl (free_handles (inv k) found))
      · rw [if_neg state] at done
        cases done
        exact handles_kept (if_neg state) rfl rfl

theorem uninit_handles (inv : s.Inv size) (done : sgUninit k id s = some next) : next.handles = s.handles := by
  obtain ⟨-, done⟩ := assert_some done
  rcases looked_up inv done with missing | ⟨index, found, done⟩
  · cases missing
    rfl
  · by_cases state : ((s.store k).slot index).state = .valid ∨ ((s.store k).slot index).state = .failed
    · rw [if_pos state, uninit_used state] at done
      cases done
      exact put_kept inv rfl found rfl (Or.inl rfl)
    · rw [if_neg state] at done
      cases done
      rfl

theorem fail_handles (inv : s.Inv size) (done : sgFail k id s = some next) : next.handles = s.handles := by
  obtain ⟨-, done⟩ := assert_some done
  rcases looked_up inv done with missing | ⟨index, found, done⟩
  · cases missing
    rfl
  · split at done
    · cases done
      exact put_kept inv rfl found rfl (Or.inr (Or.inr rfl))
    · cases done
      rfl

theorem init_handles {desc : Desc k} {reply : InitReply} (inv : s.Inv size) (done : sgInit k id desc reply s = some next) :
    next.handles = s.handles := by
  obtain ⟨-, done⟩ := assert_some done
  rcases looked_up inv done with missing | ⟨index, found, done⟩
  · cases missing
    rfl
  · split at done
    · exact init_item_handles inv found.pos found.inside found.used done
    · cases done
      rfl

-- A buffer that is written to keeps its slot.
theorem set_buffer_handles {index : Nat} {buffer : SgBuffer} {base : SgState} (inv : s.Inv size)
    (same : base.store = s.store) (found : (s.store .buffer).Found id index) :
    (base.setBuffer index buffer).handles = s.handles := by
  unfold SgState.setBuffer
  rw [same]
  exact put_kept inv same found rfl found.used.live

theorem update_buffer_handles {data : SgRange} {reply : MapReply} (inv : s.Inv size)
    (done : sgUpdateBuffer id data reply s = some next) : next.handles = s.handles := by
  obtain ⟨-, done⟩ := assert_some done
  obtain ⟨-, done⟩ := assert_some done
  rcases @looked_up _ (s.count _) _ _ _ inv _ _ _ done with missing | ⟨index, found, done⟩
  · cases missing
    rfl
  · dsimp only at done
    split at done
    · obtain ⟨-, done⟩ := assert_some done
      obtain ⟨-, done⟩ := assert_some done
      obtain ⟨-, done⟩ := assert_some done
      cases done
      exact set_buffer_handles inv rfl found
    · cases done
      rfl

theorem append_buffer_handles {data : SgRange} {reply : MapReply} {pos : Int} (inv : s.Inv size)
    (done : sgAppendBuffer id data reply s = some (pos, next)) : next.handles = s.handles := by
  obtain ⟨-, done⟩ := assert_some done
  obtain ⟨-, done⟩ := assert_some done
  rcases @looked_up _ (s.count _) _ _ _ inv _ _ _ done with missing | ⟨index, found, done⟩
  · cases missing
    rfl
  · obtain ⟨-, done⟩ := assert_some done
    dsimp only at done
    split at done
    · obtain ⟨-, done⟩ := assert_some done
      cases done
      exact set_buffer_handles inv rfl found
    · cases done
      exact set_buffer_handles inv rfl found

theorem step_handles {call : SgCall} (inv : s.Inv size) (done : sgStep s call = some next) : HandlesAfter call s next := by
  cases call with
  | alloc made =>
      obtain ⟨⟨id, allocated⟩, allocates, done⟩ := bind_some done
      cases done
      exact handle_issued rfl (congrArg (issued made) allocates) (alloc_result_handles inv allocates)
  | make made desc reply =>
      obtain ⟨⟨id, settled⟩, makes, done⟩ := bind_some done
      cases done
      exact handle_issued rfl (congrArg (issued made) makes) (make_result_handles inv makes)
  | destroy named id => exact handle_ended rfl rfl (destroy_result_handles inv done)
  | dealloc named id => exact dealloc_handles inv done
  | init named id desc reply => exact handles_kept rfl rfl (init_handles inv done)
  | uninit named id => exact handles_kept rfl rfl (uninit_handles inv done)
  | fail named id => exact handles_kept rfl rfl (fail_handles inv done)
  | updateBuffer id data reply => exact handles_kept rfl rfl (update_buffer_handles inv done)
  | appendBuffer id data reply =>
      obtain ⟨⟨pos, appended⟩, appends, done⟩ := bind_some done
      cases done
      exact handles_kept rfl rfl (append_buffer_handles inv appends)
  | beginPass _ _ | applyViewport _ _ _ _ _ | applyScissorRect _ _ _ _ _ | applyPipeline _ _ | applyBindings _ _
  | applyUniforms _ _ _ | draw _ _ _ | endPass | commit | resetStateCache | addCommitListener _
  | removeCommitListener _ | enableFrameStats | disableFrameStats =>
      have same := (step_framed done rfl).store
      refine handles_kept rfl rfl ?_
      rw [SgState.handles, same]
      rfl

-- A state whose handles in use are those of a ledger.
def Accounts {ω : Type} (l : Ledger ω Handle) (s : SgState) : Prop := l.inUse = s.handles

-- A call made by the holder p is an entry of p, as long as it ends no other holder's handle.
theorem step_booked {ω : Type} [DecidableEq ω] {l : Ledger ω Handle} {p : ω} {call : SgCall} (inv : s.Inv size)
    (accounts : Accounts l s) (mine : ∀ h, call.ended s = some h → h ∈ s.handles → h ∈ l.held p)
    (done : sgStep s call = some next) :
    ∃ l', Entries p l l' ∧ Accounts l' next ∧ l'.held p = call.onHandles s (l.held p) := by
  obtain ⟨handles, fresh⟩ := step_handles inv done
  cases gives : call.given s with
  | none =>
      cases ends : call.ended s with
      | none =>
          refine ⟨l, .refl, ?_, (idle_on_handles ends gives _).symm⟩
          rw [Accounts, handles, idle_on_handles ends gives, accounts]
      | some h =>
          have own : h ∈ l.inUse → h ∈ l.held p := fun used => mine h ends (accounts ▸ used)
          have removed (set : Set Handle) : call.onHandles s set = set \ {h} := by
            ext other
            simp [SgCall.onHandles, ends, gives, eq_comm]
          refine ⟨l.release p h, .single (.release l h own), ?_, ?_⟩
          · rw [Accounts, release_in_use own, accounts, handles, removed]
          · rw [release_held, removed]
  | some h =>
      have ends : call.ended s = none := by
        cases call with
        | alloc _ | make _ _ _ => rfl
        | _ => cases gives
      have added (set : Set Handle) : call.onHandles s set = insert h set := by
        ext other
        simp [SgCall.onHandles, ends, gives, or_comm, eq_comm]
      have unused : h ∉ l.inUse := by
        rw [accounts]
        exact fresh h gives
      refine ⟨l.acquire p h unused, .single (.acquire l h unused), ?_, ?_⟩
      · rw [Accounts, acquire_in_use, accounts, handles, added]
      · rw [acquire_held, added]

-- The handle a call could end, whatever the state.
def SgCall.mayEnd : SgCall → Option Handle
  | .destroy k id | .dealloc k id => some (k, id)
  | _ => none

theorem ended_may {call : SgCall} {h : Handle} (ends : call.ended s = some h) : call.mayEnd = some h := by
  cases call with
  | destroy k id => exact ends
  | dealloc k id =>
      rw [SgCall.ended] at ends
      split at ends
      · exact ends
      · cases ends
  | _ => cases ends

-- What a run of calls makes of a set of handles.
def runOnHandles : List SgCall → SgState → Set Handle → Set Handle
  | [], _, handles => handles
  | call :: rest, s, handles =>
      match sgStep s call with
      | some next => runOnHandles rest next (call.onHandles s handles)
      | none => handles

theorem run_booked {ω : Type} [DecidableEq ω] {l : Ledger ω Handle} {p : ω} {calls : List SgCall} (inv : s.Inv size)
    (accounts : Accounts l s) (spares : ∀ call ∈ calls, ∀ h, call.mayEnd = some h → ∀ q ≠ p, h ∉ l.held q)
    (done : sgRun s calls = some next) :
    ∃ l', Entries p l l' ∧ Accounts l' next ∧ l'.held p = runOnHandles calls s (l.held p) := by
  induction calls generalizing s l with
  | nil =>
      cases done
      exact ⟨l, .refl, accounts, rfl⟩
  | cons call rest ih =>
      obtain ⟨middle, step, done⟩ := run_cons_some done
      have mine (h : Handle) (ends : call.ended s = some h) (used : h ∈ s.handles) : h ∈ l.held p := by
        rw [← accounts] at used
        obtain ⟨q, holds⟩ := used
        by_contra other
        exact spares call (by simp) h (ended_may ends) q (fun same => other (same ▸ holds)) holds
      obtain ⟨l', first, accounts', held⟩ := step_booked inv accounts mine step
      have later : ∀ call ∈ rest, ∀ h, call.mayEnd = some h → ∀ q ≠ p, h ∉ l'.held q := by
        intro other member h ends q ne
        rw [entries_others first ne]
        exact spares other (by simp [member]) h ends q ne
      obtain ⟨l'', second, accounts'', held'⟩ := ih (step_inv inv step) accounts' later done
      refine ⟨l'', first.trans second, accounts'', ?_⟩
      rw [held', held, runOnHandles, step]

end WakeAlpha.Gfx
