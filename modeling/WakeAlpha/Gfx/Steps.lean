import WakeAlpha.Gfx.Api

set_option autoImplicit false

namespace WakeAlpha.Gfx

theorem assert_some {α : Type} {condition : Prop} [Decidable condition] {next : Unit → Checked α} {result : α}
    (done : (sokolAssert condition >>= next) = some result) : condition ∧ next () = some result := by
  by_cases holds : condition
  · rw [assert_bind holds] at done
    exact ⟨holds, done⟩
  · simp [sokolAssert, holds] at done

theorem assert_exists {α : Type} {condition : Prop} [Decidable condition] {next : Unit → Checked α}
    (holds : condition) (rest : ∃ result, next () = some result) :
    ∃ result, (sokolAssert condition >>= next) = some result := by
  rw [assert_bind holds]
  exact rest

theorem bind_exists {α β : Type} {first : Checked α} {next : α → Checked β} {value : α} (done : first = some value)
    (rest : ∃ result, next value = some result) : ∃ result, (first >>= next) = some result := by
  rw [done]
  exact rest

theorem bind_some {α β : Type} {first : Checked α} {next : α → Checked β} {result : β}
    (done : (first >>= next) = some result) : ∃ value, first = some value ∧ next value = some result :=
  Option.bind_eq_some_iff.mp done

-- Every pool of the state keeps its invariant; size is the number of resources each can hold.
def SgState.Inv (size : Kind → Nat) (s : SgState) : Prop := ∀ k, (s.store k).Inv (size k)

-- What initialization leaves in a valid resource.
def Body.Made {k : Kind} (body : Body k) : Prop :=
  ∃ s old desc reply, initBody s k old desc reply = some (.valid, body)

def SgItem.Plain {k : Kind} (item : SgItem (Body k)) : Prop := item.slot.state = .valid → Body.Made item.body

theorem plain_of_ne {k : Kind} {item : SgItem (Body k)} (ne : item.slot.state ≠ .valid) : item.Plain :=
  fun valid => absurd valid ne

-- What a call may do to the stores: how many lives of a kind it can start, which slots it may change,
-- and to what.
def SgCall.starts (k : Kind) : SgCall → Nat
  | .alloc made | .make made _ _ => if made = k then 1 else 0
  | _ => 0

def SgCall.mayTouch (s : SgState) (k : Kind) (index : Nat) (item : SgItem (Body k)) : SgCall → Prop
  | .alloc made | .make made _ _ => made = k ∧ index ∈ (s.store k).pool.freeQueue ∧ item.Plain
  | .dealloc named id | .init named id _ _ | .uninit named id | .fail named id | .destroy named id =>
      named = k ∧ (s.store k).Found id index ∧ item.Plain
  | .updateBuffer id _ _ | .appendBuffer id _ _ =>
      .buffer = k ∧ (s.store k).Found id index ∧ item.slot = (s.store k).slot index
  | _ => False

-- The part of the state that belongs to the frame. The D3D11 backend may let go of its pipeline.
structure Kept (s next : SgState) : Prop where
  valid : next.valid = s.valid
  validation : next.validation = s.validation
  frameIndex : next.frameIndex = s.frameIndex
  curPass : next.curPass = s.curPass
  curPipeline : next.curPipeline = s.curPipeline
  nextDrawValid : next.nextDrawValid = s.nextDrawValid
  d3d11Pipeline : next.d3d11Pipeline = s.d3d11Pipeline ∨ next.d3d11Pipeline = 0
  commitListeners : next.commitListeners = s.commitListeners
  statsEnabled : next.statsEnabled = s.statsEnabled
  prevStats : next.prevStats = s.prevStats
  calls : next.calls = s.calls

theorem kept_refl (s : SgState) : Kept s s := ⟨rfl, rfl, rfl, rfl, rfl, rfl, Or.inl rfl, rfl, rfl, rfl, rfl⟩

theorem kept_error (s : SgState) (item : SgLogItem) : Kept s (s.error item) :=
  ⟨rfl, rfl, rfl, rfl, rfl, rfl, Or.inl rfl, rfl, rfl, rfl, rfl⟩

theorem kept_count (s : SgState) (add : SgFrameStats → SgFrameStats) : Kept s (s.count add) :=
  ⟨rfl, rfl, rfl, rfl, rfl, rfl, Or.inl rfl, rfl, rfl, rfl, rfl⟩

theorem kept_discard (s : SgState) (k : Kind) (index : Nat) : Kept s (s.discard k index) := by
  refine ⟨rfl, rfl, rfl, rfl, rfl, rfl, ?_, rfl, rfl, rfl, rfl⟩
  by_cases bound : k = .pipeline ∧ index = slotIndexOf s.d3d11Pipeline
  · right
    simp [SgState.discard, bound]
  · left
    simp only [SgState.discard, if_neg bound]

theorem kept_trans {a b c : SgState} (first : Kept a b) (second : Kept b c) : Kept a c := by
  refine ⟨second.valid.trans first.valid, second.validation.trans first.validation,
    second.frameIndex.trans first.frameIndex, second.curPass.trans first.curPass,
    second.curPipeline.trans first.curPipeline, second.nextDrawValid.trans first.nextDrawValid, ?_,
    second.commitListeners.trans first.commitListeners, second.statsEnabled.trans first.statsEnabled,
    second.prevStats.trans first.prevStats, second.calls.trans first.calls⟩
  rcases second.d3d11Pipeline with same | gone
  · rw [same]
    exact first.d3d11Pipeline
  · exact Or.inr gone

theorem kept_set_store {s base : SgState} (kept : Kept s base) (k : Kind) (store : SgStore (Body k)) :
    Kept s (base.setStore k store) :=
  ⟨kept.valid, kept.validation, kept.frameIndex, kept.curPass, kept.curPipeline, kept.nextDrawValid,
    kept.d3d11Pipeline, kept.commitListeners, kept.statsEnabled, kept.prevStats, kept.calls⟩

-- The store of kind k goes through moves at allowed places; every other store stays, and the frame.
structure OnlyMoves (k : Kind) (allowed : Nat → SgItem (Body k) → Prop) (n : Nat) (s next : SgState) : Prop where
  moves : Moves allowed (s.store k) n (next.store k)
  others : ∀ other, other ≠ k → next.store other = s.store other
  kept : Kept s next

theorem only_moves_refl {k : Kind} {allowed : Nat → SgItem (Body k) → Prop} {s next : SgState} (kept : Kept s next)
    (same : next.store = s.store) : OnlyMoves k allowed 0 s next := by
  refine ⟨?_, fun other _ => by rw [same], kept⟩
  rw [same]
  exact Moves.refl _

theorem only_moves_set {k : Kind} {allowed : Nat → SgItem (Body k) → Prop} {n : Nat} {s next : SgState}
    {store : SgStore (Body k)} (kept : Kept s next) (same : next.store = s.store) (moves : Moves allowed (s.store k) n store) :
    OnlyMoves k allowed n s (next.setStore k store) := by
  refine ⟨?_, fun other ne => ?_, kept_set_store kept k store⟩
  · rw [set_store_self]
    exact moves
  · rw [set_store_other _ _ ne, same]

variable {size : Kind → Nat} {s next : SgState} {k : Kind} {id : UInt32}

theorem alloc_result (inv : s.Inv size) (done : sgAlloc k s = some (id, next)) :
    ((s.store k).pool.freeQueue = [] ∧ id = 0 ∧ next = s.error (.poolExhausted k)) ∨
      ∃ index rest, (s.store k).pool.freeQueue = index :: rest ∧
        id = slotId ((s.store k).pool.genCtrs index + 1) index ∧
        next = s.setStore k ((s.store k).allocAt index rest) := by
  obtain ⟨-, done⟩ := assert_some done
  cases queue : (s.store k).pool.freeQueue with
  | nil =>
      left
      rw [alloc_exhausted queue] at done
      simp only [Option.bind_eq_bind, Option.bind_some, Option.some.injEq, Prod.mk.injEq, pure] at done
      obtain ⟨rfl, rfl⟩ := done
      refine ⟨rfl, rfl, ?_⟩
      simp [SgState.setStore, SgState.error]
  | cons index rest =>
      right
      obtain ⟨pos, le, -⟩ := (inv k).free index (by simp [queue])
      have small := (inv k).small
      have named := slot_id_ne_zero ((s.store k).pool.genCtrs index + 1) pos (by omega)
      rw [alloc_next (inv k) queue] at done
      simp only [Option.bind_eq_bind, Option.bind_some, Option.some.injEq, Prod.mk.injEq, pure] at done
      obtain ⟨rfl, rfl⟩ := done
      exact ⟨index, rest, rfl, rfl, by rw [if_neg named]⟩

-- A call with a handle either leaves the stores alone or found the item the handle names.
theorem looked_up {α : Type} (inv : s.Inv size) {found : Nat → Checked α} {missing : Checked α} {result : α}
    (done : ((s.store k).lookup id >>= fun answer =>
      match answer with
      | some index => found index
      | none => missing) = some result) :
    missing = some result ∨ ∃ index, (s.store k).Found id index ∧ found index = some result := by
  obtain ⟨answer, looked, done⟩ := bind_some done
  cases answer with
  | none => exact Or.inl done
  | some index => exact Or.inr ⟨index, lookup_found (inv k) looked, done⟩

theorem dealloc_moves (inv : s.Inv size) (done : sgDealloc k id s = some next) :
    OnlyMoves k (fun index item => (s.store k).Found id index ∧ item.Plain) 0 s next := by
  obtain ⟨-, done⟩ := assert_some done
  rcases looked_up inv done with missing | ⟨index, found, done⟩
  · cases missing
    exact only_moves_refl (kept_refl s) rfl
  · by_cases state : ((s.store k).slot index).state = .alloc
    · rw [if_pos state, dealloc_used (inv k) found.pos found.inside found.used state] at done
      cases done
      refine only_moves_set (kept_refl s) rfl (single_move (.free index found.pos found.inside found.used) ⟨found, ?_⟩)
      exact plain_of_ne (by simp [SgStore.freeAt])
    · rw [if_neg state] at done
      cases done
      exact only_moves_refl (kept_error s _) rfl

theorem init_item_moves {index : Nat} {desc : Desc k} {reply : InitReply} (pos : 0 < index)
    (inside : index < (s.store k).pool.size) (used : (s.store k).Used index)
    (done : initItem k index desc reply s = some next) :
    OnlyMoves k (fun place item => place = index ∧ item.Plain) 0 s next := by
  obtain ⟨-, done⟩ := assert_some done
  obtain ⟨⟨state, body⟩, inits, done⟩ := bind_some done
  obtain ⟨settled, done⟩ := assert_some done
  cases done
  refine only_moves_set (kept_refl s) rfl (single_move (.put index _ pos inside used rfl ?_) ⟨rfl, ?_⟩)
  · exact Or.inr settled
  · rw [put_items_self]
    intro valid
    have made : state = .valid := valid
    subst made
    exact ⟨s, _, desc, reply, inits⟩

theorem init_moves {desc : Desc k} {reply : InitReply} (inv : s.Inv size)
    (done : sgInit k id desc reply s = some next) : OnlyMoves k (fun index item => (s.store k).Found id index ∧ item.Plain) 0 s next := by
  obtain ⟨-, done⟩ := assert_some done
  rcases looked_up inv done with missing | ⟨index, found, done⟩
  · cases missing
    exact only_moves_refl (kept_refl s) rfl
  · split at done
    · have only := init_item_moves found.pos found.inside found.used done
      refine ⟨moves_mono ?_ only.moves, only.others, only.kept⟩
      rintro place item ⟨rfl, plain⟩
      exact ⟨found, plain⟩
    · cases done
      exact only_moves_refl (kept_error s _) rfl

theorem uninit_moves (inv : s.Inv size) (done : sgUninit k id s = some next) :
    OnlyMoves k (fun index item => (s.store k).Found id index ∧ item.Plain) 0 s next := by
  obtain ⟨-, done⟩ := assert_some done
  rcases looked_up inv done with missing | ⟨index, found, done⟩
  · cases missing
    exact only_moves_refl (kept_refl s) rfl
  · by_cases state : ((s.store k).slot index).state = .valid ∨ ((s.store k).slot index).state = .failed
    · rw [if_pos state, uninit_used state] at done
      cases done
      refine only_moves_set (kept_discard s k index) rfl
        (single_move (.put index _ found.pos found.inside found.used rfl (Or.inl rfl)) ⟨found, ?_⟩)
      exact plain_of_ne (by simp)
    · rw [if_neg state] at done
      cases done
      exact only_moves_refl (kept_error s _) rfl

theorem fail_moves (inv : s.Inv size) (done : sgFail k id s = some next) :
    OnlyMoves k (fun index item => (s.store k).Found id index ∧ item.Plain) 0 s next := by
  obtain ⟨-, done⟩ := assert_some done
  rcases looked_up inv done with missing | ⟨index, found, done⟩
  · cases missing
    exact only_moves_refl (kept_refl s) rfl
  · split at done
    · cases done
      refine only_moves_set (kept_refl s) rfl
        (single_move (.put index _ found.pos found.inside found.used rfl (Or.inr (Or.inr rfl))) ⟨found, ?_⟩)
      exact plain_of_ne (by simp)
    · cases done
      exact only_moves_refl (kept_error s _) rfl

-- A resource that is found is taken back to the ALLOC state, if it is not there, and then freed.
theorem destroy_found {index : Nat} (inv : s.Inv size) (valid : s.valid = true) (found : (s.store k).Found id index) :
    ∃ base : SgState, base.store = s.store ∧ Kept s base ∧ ∃ body,
      sgDestroy k id s =
        some (base.setStore k (((s.store k).put index ⟨{ id := id, state := .alloc }, body⟩).freeAt index)) := by
  simp only [sgDestroy, assert_bind valid, found_lookup found, Option.bind_eq_bind, Option.bind_some]
  by_cases settled : ((s.store k).slot index).state = .valid ∨ ((s.store k).slot index).state = .failed
  · have cleared : (s.store k).put index ⟨{ (s.store k).slot index with state := .alloc }, default⟩ =
        (s.store k).put index ⟨{ id := id, state := .alloc }, default⟩ := by
      rw [← found.id]
    have inv' := move_inv (inv k) (.put index ⟨{ (s.store k).slot index with state := .alloc }, default⟩
      found.pos found.inside found.used rfl (Or.inl rfl))
    have used : ((s.store k).put index ⟨{ (s.store k).slot index with state := .alloc }, default⟩).Used index := by
      constructor
      · rw [put_slot_self]
        exact found.used.id
      · rw [put_slot_self]
        exact Or.inl rfl
    refine ⟨s.discard k index, rfl, kept_discard s k index, default, ?_⟩
    simp only [if_pos settled, uninit_used settled, Option.bind_some, pure, set_store_self, put_slot_self, if_true]
    rw [dealloc_used inv' found.pos found.inside used (by rw [put_slot_self]), cleared]
    simp [SgState.setStore]
  · have state : ((s.store k).slot index).state = .alloc := by
      rcases found.used.live with alloc | other
      · exact alloc
      · exact absurd other settled
    have same : (s.store k).put index ⟨{ id := id, state := .alloc }, (s.store k).body index⟩ = s.store k := by
      rw [← found.id, ← state]
      simp [SgStore.put, SgStore.slot, SgStore.body]
    refine ⟨s, rfl, kept_refl s, (s.store k).body index, ?_⟩
    simp only [if_neg settled, pure, Option.bind_some]
    rw [if_pos state, dealloc_used (inv k) found.pos found.inside found.used state, same]
    rfl

theorem destroy_result (inv : s.Inv size) (done : sgDestroy k id s = some next) :
    ((s.store k).lookup id = some none ∧ next = s) ∨
      ∃ index, (s.store k).Found id index ∧
        ∃ base : SgState, base.store = s.store ∧ Kept s base ∧ ∃ body,
          next = base.setStore k (((s.store k).put index ⟨{ id := id, state := .alloc }, body⟩).freeAt index) := by
  obtain ⟨valid, rest⟩ := assert_some done
  obtain ⟨answer, looked, rest⟩ := bind_some rest
  cases answer with
  | none =>
      cases rest
      exact Or.inl ⟨looked, rfl⟩
  | some index =>
      have found := lookup_found (inv k) looked
      obtain ⟨base, same, kept, body, result⟩ := destroy_found inv valid found
      rw [result] at done
      cases done
      exact Or.inr ⟨index, found, base, same, kept, body, rfl⟩

theorem destroy_moves (inv : s.Inv size) (done : sgDestroy k id s = some next) :
    OnlyMoves k (fun index item => (s.store k).Found id index ∧ item.Plain) 0 s next := by
  rcases destroy_result inv done with ⟨-, rfl⟩ | ⟨index, found, base, same, kept, body, rfl⟩
  · exact only_moves_refl (kept_refl _) rfl
  · have put : Move (s.store k) 0 index ((s.store k).put index ⟨{ id := id, state := .alloc }, body⟩) :=
      .put index _ found.pos found.inside found.used found.id.symm (Or.inl rfl)
    have used : ((s.store k).put index ⟨{ id := id, state := .alloc }, body⟩).Used index := by
      constructor
      · rw [put_slot_self]
        exact found.id ▸ found.used.id
      · rw [put_slot_self]
        exact Or.inl rfl
    have cleared : SgItem.Plain (((s.store k).put index ⟨{ id := id, state := .alloc }, body⟩).items index) :=
      plain_of_ne (by simp)
    have blank : SgItem.Plain
        ((((s.store k).put index ⟨{ id := id, state := .alloc }, body⟩).freeAt index).items index) :=
      plain_of_ne (by simp [SgStore.freeAt])
    exact only_moves_set kept same
      (.tail (single_move put ⟨found, cleared⟩) (.free index found.pos found.inside used) ⟨found, blank⟩)

theorem make_result {desc : Desc k} {reply : InitReply} (inv : s.Inv size)
    (done : sgMake k desc reply s = some (id, next)) :
    ((s.store k).pool.freeQueue = [] ∧ id = 0 ∧ next = s.error (.poolExhausted k)) ∨
      ∃ index rest, (s.store k).pool.freeQueue = index :: rest ∧
        id = slotId ((s.store k).pool.genCtrs index + 1) index ∧
        initItem k index desc reply (s.setStore k ((s.store k).allocAt index rest)) = some next := by
  obtain ⟨⟨made, allocated⟩, allocates, done⟩ := bind_some done
  rcases alloc_result inv allocates with ⟨empty, rfl, same⟩ | ⟨index, rest, queue, rfl, rfl⟩
  · simp only [ne_eq, not_true, if_false, pure, Option.some.injEq, Prod.mk.injEq] at done
    obtain ⟨rfl, rfl⟩ := done
    exact Or.inl ⟨empty, rfl, same⟩
  · right
    obtain ⟨pos, le, -⟩ := (inv k).free index (by simp [queue])
    have small := (inv k).small
    have sizes := (inv k).size
    have named := slot_id_ne_zero ((s.store k).pool.genCtrs index + 1) pos (show index < 65536 by omega)
    have back := slot_index_of_slot_id ((s.store k).pool.genCtrs index + 1) (show index < 65536 by omega)
    dsimp only at done
    rw [if_pos named] at done
    obtain ⟨place, placed, done⟩ := bind_some done
    obtain ⟨-, placed⟩ := assert_some placed
    obtain ⟨found, read, placed⟩ := bind_some placed
    obtain ⟨-, read⟩ := assert_some read
    obtain ⟨-, placed⟩ := assert_some placed
    rw [back] at read
    cases read
    cases placed
    obtain ⟨final, settled, done⟩ := bind_some done
    cases done
    exact ⟨index, rest, queue, rfl, settled⟩

theorem make_moves {desc : Desc k} {reply : InitReply} (inv : s.Inv size)
    (done : sgMake k desc reply s = some (id, next)) :
    ∃ n ≤ 1, OnlyMoves k (fun index item => index ∈ (s.store k).pool.freeQueue ∧ item.Plain) n s next := by
  rcases make_result inv done with ⟨-, -, rfl⟩ | ⟨index, rest, queue, -, settled⟩
  · exact ⟨0, by omega, only_moves_refl (kept_error s _) rfl⟩
  · obtain ⟨pos, le, -⟩ := (inv k).free index (by simp [queue])
    have sizes := (inv k).size
    have first : Moves (fun place item => place ∈ (s.store k).pool.freeQueue ∧ item.Plain) (s.store k) 1
        ((s.store k).allocAt index rest) := by
      refine single_move (.alloc index rest queue) ⟨by simp [queue], plain_of_ne ?_⟩
      simp [SgStore.allocAt]
    have inner := init_item_moves pos (show index < _ by rw [set_store_self]; change index < (s.store k).pool.size; omega)
      (by rw [set_store_self]; exact alloc_used_self _ _ _) settled
    refine ⟨1, Nat.le_refl 1, ?_, ?_, kept_trans (kept_set_store (kept_refl s) k _) inner.kept⟩
    · have moves := inner.moves
      rw [set_store_self] at moves
      refine moves_trans first (moves_mono ?_ moves)
      rintro place item ⟨rfl, plain⟩
      exact ⟨by simp [queue], plain⟩
    · intro other ne
      rw [inner.others other ne, set_store_other _ _ ne]

theorem set_buffer_moves {index : Nat} {buffer : SgBuffer} {base : SgState} (kept : Kept s base)
    (same : base.store = s.store) (found : (s.store .buffer).Found id index) :
    OnlyMoves .buffer (fun index item => (s.store .buffer).Found id index ∧ item.slot = (s.store .buffer).slot index) 0 s (base.setBuffer index buffer) := by
  unfold SgState.setBuffer
  rw [same]
  exact only_moves_set kept same
    (single_move (.put index _ found.pos found.inside found.used rfl found.used.live) ⟨found, by simp⟩)

theorem update_buffer_moves {data : SgRange} {reply : MapReply} (inv : s.Inv size)
    (done : sgUpdateBuffer id data reply s = some next) : OnlyMoves .buffer (fun index item => (s.store .buffer).Found id index ∧ item.slot = (s.store .buffer).slot index) 0 s next := by
  obtain ⟨-, done⟩ := assert_some done
  obtain ⟨-, done⟩ := assert_some done
  rcases @looked_up _ (s.count _) _ _ _ inv _ _ _ done with missing | ⟨index, found, done⟩
  · cases missing
    exact only_moves_refl (kept_count s _) rfl
  · dsimp only at done
    split at done
    · obtain ⟨-, done⟩ := assert_some done
      obtain ⟨-, done⟩ := assert_some done
      obtain ⟨-, done⟩ := assert_some done
      cases done
      exact set_buffer_moves (kept_count s _) rfl found
    · cases done
      exact only_moves_refl (kept_count s _) rfl

theorem append_buffer_moves {data : SgRange} {reply : MapReply} {pos : Int} (inv : s.Inv size)
    (done : sgAppendBuffer id data reply s = some (pos, next)) :
    OnlyMoves .buffer (fun index item => (s.store .buffer).Found id index ∧ item.slot = (s.store .buffer).slot index) 0 s next := by
  obtain ⟨-, done⟩ := assert_some done
  obtain ⟨-, done⟩ := assert_some done
  rcases @looked_up _ (s.count _) _ _ _ inv _ _ _ done with missing | ⟨index, found, done⟩
  · cases missing
    exact only_moves_refl (kept_count s _) rfl
  · obtain ⟨-, done⟩ := assert_some done
    dsimp only at done
    split at done
    · obtain ⟨-, done⟩ := assert_some done
      cases done
      exact set_buffer_moves (kept_count s _) rfl found
    · cases done
      exact set_buffer_moves (kept_count s _) rfl found

-- The calls of a frame change no store. What else each can do is said once, in its result.
theorem begin_pass_result {pass : SgPass} {validated : Bool} (done : sgBeginPass pass validated s = some next) :
    s.curPass.inPass = false ∧
      (next = s ∨ next = s.error .beginpassAttachmentInvalid ∨
        ∃ current : SgCurPass, current.valid = true ∧ current.inPass = true ∧
          next = { s with curPass := current }.emit (.beginPass current.attsId current.width current.height)) := by
  obtain ⟨-, done⟩ := assert_some done
  obtain ⟨-, done⟩ := assert_some done
  obtain ⟨outside, done⟩ := assert_some done
  refine ⟨outside, ?_⟩
  dsimp only at done
  split at done
  · split at done
    · obtain ⟨-, done⟩ := assert_some done
      obtain ⟨answer, -, done⟩ := bind_some done
      cases answer with
      | none =>
          cases done
          exact Or.inr (Or.inl rfl)
      | some atts =>
          cases done
          exact Or.inr (Or.inr ⟨_, rfl, rfl, rfl⟩)
    · obtain ⟨-, done⟩ := assert_some done
      obtain ⟨-, done⟩ := assert_some done
      obtain ⟨-, done⟩ := assert_some done
      obtain ⟨-, done⟩ := assert_some done
      cases done
      exact Or.inr (Or.inr ⟨_, rfl, rfl, rfl⟩)
  · cases done
    exact Or.inl rfl

theorem apply_rect_result {add : SgFrameStats → SgFrameStats} {call : BackendCall}
    (done : applyRect add call s = some next) :
    s.curPass.inPass = true ∧ (next = s.count add ∨ next = (s.count add).emit call) := by
  obtain ⟨-, done⟩ := assert_some done
  obtain ⟨inside, done⟩ := assert_some done
  refine ⟨inside, ?_⟩
  dsimp only at done
  split at done
  · cases done
    exact Or.inr rfl
  · cases done
    exact Or.inl rfl

-- The pipeline reaches the backend only in a valid pass; the next draw is armed if it is valid.
theorem apply_pipeline_result {formats : Bool} (done : sgApplyPipeline id formats s = some next) :
    s.curPass.inPass = true ∧ ∃ counted, counted = s.count (fun stats =>
        { stats with numApplyPipeline := stats.numApplyPipeline + 1 }) ∧
      (next = counted.disarm ∨ (s.curPass.valid = false ∧ next = counted) ∨
        ∃ index, (s.store .pipeline).lookup id = some (some index) ∧
          shaderAlive s ((s.store .pipeline).body index) = true ∧
          next = { counted with
            curPipeline := id
            d3d11Pipeline := id
            nextDrawValid := decide (((s.store .pipeline).slot index).state = SgResourceState.valid) }.emit
              (.applyPipeline id)) := by
  obtain ⟨-, done⟩ := assert_some done
  obtain ⟨inside, done⟩ := assert_some done
  refine ⟨inside, _, rfl, ?_⟩
  obtain ⟨validated, -, done⟩ := bind_some done
  cases validated with
  | false =>
      cases done
      exact Or.inl rfl
  | true =>
      simp only [if_true] at done
      split at done
      · obtain ⟨answer, looked, done⟩ := bind_some done
        cases answer with
        | none => cases done
        | some index =>
            obtain ⟨alive, done⟩ := assert_some done
            cases done
            exact Or.inr (Or.inr ⟨index, looked, alive, rfl⟩)
      · rename_i invalid
        cases done
        exact Or.inr (Or.inl ⟨Bool.eq_false_iff.mpr invalid, rfl⟩)

theorem apply_bindings_result {bindings : SgBindings} {validated : Bool}
    (done : sgApplyBindings bindings validated s = some next) :
    s.curPass.inPass = true ∧ ∃ counted, counted = s.count (fun stats =>
        { stats with numApplyBindings := stats.numApplyBindings + 1 }) ∧
      (next = counted.disarm ∨ (s.curPass.valid = false ∧ next = counted) ∨
        (s.nextDrawValid = true ∧ (∃ index, (s.store .pipeline).lookup s.curPipeline = some (some index)) ∧
          next = counted.emit (.applyBindings bindings))) := by
  obtain ⟨-, done⟩ := assert_some done
  obtain ⟨inside, done⟩ := assert_some done
  refine ⟨inside, _, rfl, ?_⟩
  dsimp only at done
  split at done
  · split at done
    · obtain ⟨pip, looked, done⟩ := bind_some done
      obtain ⟨vertices, -, done⟩ := bind_some done
      obtain ⟨indices, -, done⟩ := bind_some done
      obtain ⟨vs, -, done⟩ := bind_some done
      obtain ⟨fs, -, done⟩ := bind_some done
      cases done
      split
      · rename_i armed
        simp only [Bool.and_eq_true] at armed
        have before : s.nextDrawValid = true := armed.1.1.1.1.1
        obtain ⟨index, rfl⟩ := Option.isSome_iff_exists.mp armed.1.1.1.1.2
        refine Or.inr (Or.inr ⟨before, ⟨index, looked⟩, ?_⟩)
        simp [SgState.count, SgState.emit, armed, before]
      · rename_i unarmed
        refine Or.inl ?_
        simp only [Bool.not_eq_true] at unarmed
        simp [SgState.disarm, unarmed]
    · rename_i invalid
      cases done
      exact Or.inr (Or.inl ⟨Bool.eq_false_iff.mpr invalid, rfl⟩)
  · cases done
    exact Or.inl rfl

theorem apply_uniforms_result {stage : SgShaderStage} {ubIndex : Nat} {data : SgRange}
    (done : sgApplyUniforms stage ubIndex data s = some next) :
    s.curPass.inPass = true ∧ ∃ counted, counted = s.count (fun stats =>
        { stats with numApplyUniforms := stats.numApplyUniforms + 1 }) ∧
      (next = counted.disarm ∨ next = counted ∨
        (s.nextDrawValid = true ∧ s.d3d11Pipeline ≠ 0 ∧
          next = counted.emit (.applyUniforms stage ubIndex data))) := by
  obtain ⟨-, done⟩ := assert_some done
  obtain ⟨inside, done⟩ := assert_some done
  refine ⟨inside, _, rfl, ?_⟩
  obtain ⟨-, done⟩ := assert_some done
  obtain ⟨-, done⟩ := assert_some done
  obtain ⟨validated, -, done⟩ := bind_some done
  cases validated with
  | false =>
      cases done
      exact Or.inl rfl
  | true =>
      simp only [if_true] at done
      split at done
      · rename_i ready
        simp only [Bool.and_eq_true] at ready
        obtain ⟨accepted, done⟩ := assert_some done
        simp only [d3d11AcceptsUniforms, Bool.and_eq_true, decide_eq_true_eq] at accepted
        cases done
        exact Or.inr (Or.inr ⟨ready.2, accepted.1.1.1, rfl⟩)
      · cases done
        exact Or.inr (Or.inl rfl)

theorem draw_result {base elements instances : Int} (done : sgDraw base elements instances s = some next) :
    s.curPass.inPass = true ∧ ∃ counted, counted = s.count (fun stats =>
        { stats with numDraw := stats.numDraw + 1 }) ∧
      ((next = counted ∧ (s.curPass.valid = false ∨ s.nextDrawValid = false ∨ elements = 0 ∨ instances = 0)) ∨
        (s.curPass.valid = true ∧ s.nextDrawValid = true ∧
          next = counted.emit (.draw base.toNat elements.toNat instances.toNat))) := by
  obtain ⟨-, done⟩ := assert_some done
  obtain ⟨inside, done⟩ := assert_some done
  obtain ⟨-, done⟩ := assert_some done
  obtain ⟨-, done⟩ := assert_some done
  obtain ⟨-, done⟩ := assert_some done
  refine ⟨inside, _, rfl, ?_⟩
  dsimp only at done
  split at done
  · rename_i valid
    split at done
    · rename_i ready
      split at done
      · rename_i none
        cases done
        exact Or.inl ⟨rfl, Or.inr (Or.inr none)⟩
      · cases done
        exact Or.inr ⟨valid, ready, rfl⟩
    · rename_i unready
      cases done
      exact Or.inl ⟨rfl, Or.inr (Or.inl (Bool.eq_false_iff.mpr unready))⟩
  · rename_i invalid
    cases done
    exact Or.inl ⟨rfl, Or.inl (Bool.eq_false_iff.mpr invalid)⟩

theorem end_pass_result (done : sgEndPass s = some next) :
    s.curPass.inPass = true ∧
      next = { (s.count fun stats => { stats with numPasses := stats.numPasses + 1 }).emit .endPass with
        curPipeline := 0
        d3d11Pipeline := 0
        curPass := {} } := by
  obtain ⟨-, done⟩ := assert_some done
  obtain ⟨inside, done⟩ := assert_some done
  obtain ⟨-, done⟩ := assert_some done
  cases done
  exact ⟨inside, rfl⟩

theorem commit_result (done : sgCommit s = some next) :
    s.curPass.inPass = false ∧
      next = { s with
        calls := s.calls ++ [.commit] ++ s.commitListeners.notified.map .notify
        prevStats := { s.stats with frameIndex := s.frameIndex }
        stats := {}
        frameIndex := s.frameIndex + 1 } := by
  obtain ⟨-, done⟩ := assert_some done
  obtain ⟨-, done⟩ := assert_some done
  obtain ⟨outside, done⟩ := assert_some done
  cases done
  exact ⟨outside, rfl⟩

theorem add_listener_result {listener : SgCommitListener} {added : Bool}
    (done : sgAddCommitListener listener s = some (added, next)) :
    (∃ error, s.commitListeners.add listener = some (.error error) ∧ added = false ∧
        next = s.error (.listener error)) ∨
      ∃ listeners, s.commitListeners.add listener = some (.ok listeners) ∧ added = true ∧
        next = { s with commitListeners := listeners } := by
  obtain ⟨-, done⟩ := assert_some done
  obtain ⟨answer, adds, done⟩ := bind_some done
  cases answer with
  | error error =>
      cases done
      exact Or.inl ⟨error, adds, rfl, rfl⟩
  | ok listeners =>
      cases done
      exact Or.inr ⟨listeners, adds, rfl, rfl⟩

theorem remove_listener_result {listener : SgCommitListener} {removed : Bool}
    (done : sgRemoveCommitListener listener s = some (removed, next)) :
    ∃ listeners, s.commitListeners.remove listener = some (removed, listeners) ∧
      next = { s with commitListeners := listeners } := by
  obtain ⟨-, done⟩ := assert_some done
  obtain ⟨⟨answer, listeners⟩, removes, done⟩ := bind_some done
  cases done
  exact ⟨listeners, removes, rfl⟩

end WakeAlpha.Gfx
