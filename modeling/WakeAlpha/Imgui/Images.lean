import WakeAlpha.Gfx.Steps
import WakeAlpha.Imgui.State

set_option autoImplicit false

namespace WakeAlpha.Imgui

open WakeAlpha.Gfx

-- The pool of images: as any pool, with nothing in the item that is never used.
structure ImagesInv (num : Nat) (images : SgStore SimguiImage) : Prop where
  inv : images.Inv num
  zero : (images.slot 0).id = 0

variable {num : Nat} {images next : SgStore SimguiImage} {id : UInt32}

theorem move_images {starts index : Nat} (inv : ImagesInv num images) (move : Move images starts index next) :
    ImagesInv num next := by
  have apart : 0 ≠ index := by
    cases move with
    | alloc _ rest queue =>
        have pos := (inv.inv.free index (by simp [queue])).1
        omega
    | free _ pos _ _ => omega
    | put _ _ pos _ _ _ _ => omega
  refine ⟨move_inv inv.inv move, ?_⟩
  have same := congrArg (fun item => item.slot.id) (move_frame move apart).1
  exact same.trans inv.zero

theorem setup_images (done : SgStore.setup num = some images) : ImagesInv num images := by
  obtain ⟨-, small, rfl⟩ := setup_some done
  exact ⟨fresh_inv small, rfl⟩

-- A slot ends its life with its item cleared.
def dropAt (images : SgStore SimguiImage) (index : Nat) : SgStore SimguiImage :=
  (images.put index ⟨images.slot index, default⟩).freeAt index

theorem drop_images {index : Nat} (inv : ImagesInv num images) (found : images.Found id index) :
    ImagesInv num (dropAt images index) := by
  have first := move_images inv
    (.put index ⟨images.slot index, default⟩ found.pos found.inside found.used rfl found.used.live)
  refine move_images first (.free index found.pos found.inside ?_)
  constructor
  · rw [put_slot_self]
    exact found.used.id
  · rw [put_slot_self]
    exact found.used.live

theorem destroy_found_image {index : Nat} (inv : ImagesInv num images) (found : images.Found id index) :
    destroyImage images id = some (dropAt images index) := by
  have sizes := inv.inv.size
  have pos := found.pos
  have inside := found.inside
  have absent := used_not_free inv.inv found.used
  have room := queue_length_lt inv.inv pos (by omega) found.used
  have named := found.named
  subst named
  rw [destroyImage, found_lookup found]
  change (sgSlotIndex id >>= fun slotIndex => sgPoolFreeIndex images.pool slotIndex >>= fun pool => _) = _
  rw [sgSlotIndex, assert_bind (Nat.ne_of_gt pos)]
  change (sgPoolFreeIndex images.pool (slotIndexOf id) >>= fun pool => _) = _
  rw [sgPoolFreeIndex, assert_bind ⟨pos, inside⟩, assert_bind (by omega), assert_bind absent,
    assert_bind (show (slotIndexOf id :: images.pool.freeQueue).length ≤ images.pool.size - 1 by
      rw [List.length_cons]; omega)]
  simp [dropAt, SgStore.freeAt, SgStore.put]

theorem destroy_image_result (inv : ImagesInv num images) (done : destroyImage images id = some next) :
    (images.lookup id = some none ∧ next = images) ∨ ∃ index, images.Found id index ∧ next = dropAt images index := by
  obtain ⟨answer, looked, rest⟩ := bind_some done
  cases answer with
  | none =>
      cases rest
      exact Or.inl ⟨looked, rfl⟩
  | some index =>
      have found := lookup_found inv.inv looked
      rw [destroy_found_image inv found] at done
      cases done
      exact Or.inr ⟨index, found, rfl⟩

theorem destroy_image_inv (inv : ImagesInv num images) (done : destroyImage images id = some next) :
    ImagesInv num next := by
  rcases destroy_image_result inv done with ⟨-, rfl⟩ | ⟨index, found, rfl⟩
  · exact inv
  · exact drop_images inv found

-- Every slot before n is free.
structure Emptied (num n : Nat) (images : SgStore SimguiImage) : Prop where
  whole : ImagesInv num images
  free : ∀ index, 0 < index → index < n → index ≤ num → index ∈ images.pool.freeQueue

theorem emptied_next {n : Nat} (emptied : Emptied num n images) (le : n ≤ num) :
    ∃ next, destroyImage images (images.slot n).id = some next ∧ Emptied num (n + 1) next := by
  have inv := emptied.whole
  have sizes := inv.inv.size
  by_cases used : 0 < n ∧ n ∉ images.pool.freeQueue
  · have small := inv.inv.small
    have taken := inv.inv.used n used.1 le used.2
    have found : images.Found (images.slot n).id n := by
      refine ⟨?_, used.1, by omega, rfl, taken⟩
      rw [taken.id, slot_index_of_slot_id _ (by omega)]
    refine ⟨dropAt images n, destroy_found_image inv found, drop_images inv found, ?_⟩
    intro index pos before bound
    change index ∈ n :: images.pool.freeQueue
    by_cases same : index = n
    · rw [same]
      exact List.mem_cons_self
    · exact List.mem_cons_of_mem _ (emptied.free index pos (by omega) bound)
  · have blank : (images.slot n).id = 0 := by
      by_cases first : n = 0
      · rw [first]
        exact inv.zero
      · have queued : n ∈ images.pool.freeQueue := by
          by_contra absent
          exact used ⟨by omega, absent⟩
        rw [(inv.inv.free n queued).2.2]
    refine ⟨images, by rw [blank]; rfl, inv, ?_⟩
    intro index pos before bound
    by_cases same : index = n
    · subst same
      by_contra absent
      exact used ⟨pos, absent⟩
    · exact emptied.free index pos (by omega) bound

-- The loop over all items frees every slot.
theorem destroy_all_empties (inv : ImagesInv num images) :
    ∃ emptied, destroyAllImages images = some emptied ∧ Emptied num (num + 1) emptied := by
  have loop (n : Nat) (le : n ≤ num + 1) :
      ∃ emptied, (List.range n).foldlM (fun images i => destroyImage images (images.slot i).id) images = some emptied ∧
        Emptied num n emptied := by
    induction n with
    | zero => exact ⟨images, rfl, inv, fun _ _ before => absurd before (Nat.not_lt_zero _)⟩
    | succ n ih =>
        obtain ⟨middle, done, emptied⟩ := ih (by omega)
        obtain ⟨last, drops, emptied⟩ := emptied_next emptied (by omega)
        refine ⟨last, ?_, emptied⟩
        rw [List.range_succ, List.foldlM_append, done]
        change ([n].foldlM (fun images i => destroyImage images (images.slot i).id) middle) = _
        rw [List.foldlM_cons, drops]
        rfl
  rw [destroyAllImages, inv.inv.size]
  exact loop (num + 1) (Nat.le_refl _)

-- The ids simgui can hand out, and the invalid id.
def ImageInRange (num : Nat) (id : UInt32) : Prop := id = 0 ∨ (0 < slotIndexOf id ∧ slotIndexOf id ≤ num)

theorem image_lookup_total (inv : ImagesInv num images) (range : ImageInRange num id) :
    ∃ answer, images.lookup id = some answer := by
  have sizes := inv.inv.size
  rcases range with rfl | ⟨pos, le⟩
  · exact ⟨none, rfl⟩
  · exact ⟨_, lookup_in_range _ pos (by omega)⟩

variable {g after : Simgui}

-- What a call about an image leaves as it is; the images it makes are fresh.
structure ImageMade (num : Nat) (fresh : SimguiImage → Prop) (g after : Simgui) : Prop where
  images : ImagesInv num after.images
  rest : after = { g with images := after.images, log := after.log }
  items : ∀ index, (after.images.slot index).state.Live →
    ((g.images.slot index).state.Live ∧ after.images.body index = g.images.body index) ∨ fresh (after.images.body index)

theorem make_image_result {desc : SimguiImageDesc} {filterable : UInt32 → Bool} (inv : ImagesInv num g.images)
    (done : simguiMakeImage desc filterable g = some (id, after)) :
    ImageInRange num id ∧
      ImageMade num (fun image => simguiInitImage g (simguiImageDescDefaults g desc) filterable = some image) g after := by
  obtain ⟨-, done⟩ := assert_some done
  cases queue : g.images.pool.freeQueue with
  | nil =>
      rw [alloc_exhausted queue] at done
      cases done
      exact ⟨Or.inl rfl, inv, rfl, fun _ live => Or.inl ⟨live, rfl⟩⟩
  | cons index rest =>
      obtain ⟨pos, le, -⟩ := inv.inv.free index (by simp [queue])
      let allocated := g.images.allocAt index rest
      have found := alloc_found inv.inv queue
      rw [alloc_next inv.inv queue] at done
      change (allocated.lookup (slotId (g.images.pool.genCtrs index + 1) index) >>= fun _ => _) = _ at done
      rw [found_lookup found] at done
      obtain ⟨-, done⟩ := assert_some done
      obtain ⟨image, inits, done⟩ := bind_some done
      cases done
      refine ⟨Or.inr ?_, move_images (move_images inv (.alloc index rest queue))
        (.put index _ found.pos found.inside found.used rfl (Or.inr (Or.inl rfl))), rfl, ?_⟩
      · rw [← found.named]
        exact ⟨pos, le⟩
      · intro other live
        by_cases same : other = index
        · subst same
          right
          change simguiInitImage _ _ _ = some ((allocated.put other _).body other)
          rw [put_body_self]
          exact inits
        · left
          change ((allocated.put index _).slot other).state.Live at live
          change _ ∧ (allocated.put index _).body other = _
          rw [put_slot_other _ _ same, alloc_slot_other _ _ same] at live
          rw [put_body_other _ _ same]
          exact ⟨live, put_body_other _ _ same⟩

theorem drop_image_result (inv : ImagesInv num g.images) (done : simguiDestroyImage id g = some after) :
    ImageMade num (fun _ => False) g after := by
  obtain ⟨-, done⟩ := assert_some done
  obtain ⟨images, drops, done⟩ := bind_some done
  cases done
  refine ⟨destroy_image_inv inv drops, rfl, fun other live => Or.inl ?_⟩
  change (images.slot other).state.Live at live
  change _ ∧ images.body other = _
  rcases destroy_image_result inv drops with ⟨-, rfl⟩ | ⟨index, found, rfl⟩
  · exact ⟨live, rfl⟩
  · by_cases same : other = index
    · subst same
      simp [dropAt, SgStore.freeAt, SgResourceState.Live] at live
    · change (((g.images.put index _).freeAt index).slot other).state.Live at live
      rw [free_slot_other _ same, put_slot_other _ _ same] at live
      refine ⟨live, ?_⟩
      change (((g.images.put index _).freeAt index).body other) = _
      rw [SgStore.freeAt, put_body_other _ _ same]
      exact put_body_other _ _ same

theorem drop_image_total (inv : ImagesInv num g.images) (cookie : g.initCookie = true) (range : ImageInRange num id) :
    ∃ after, simguiDestroyImage id g = some after := by
  obtain ⟨answer, looked⟩ := image_lookup_total inv range
  have drops : ∃ images, destroyImage g.images id = some images := by
    cases answer with
    | none => exact bind_exists looked ⟨_, rfl⟩
    | some index => exact ⟨_, destroy_found_image inv (lookup_found inv.inv looked)⟩
  obtain ⟨images, drops⟩ := drops
  exact assert_exists cookie (bind_exists drops ⟨_, rfl⟩)

theorem make_image_total {desc : SimguiImageDesc} {filterable : UInt32 → Bool} (inv : ImagesInv num g.images)
    (cookie : g.initCookie = true) (default : g.defPip ≠ 0) (unfilterable : g.pipUnfilterable ≠ 0) :
    ∃ result, simguiMakeImage desc filterable g = some result := by
  refine assert_exists cookie ?_
  cases queue : g.images.pool.freeQueue with
  | nil => exact bind_exists (alloc_exhausted queue) ⟨_, rfl⟩
  | cons index rest =>
      refine bind_exists (alloc_next inv.inv queue) (bind_exists (found_lookup (alloc_found inv.inv queue)) ?_)
      refine assert_exists (show ((g.images.allocAt index rest).slot index).state = .alloc by simp [SgStore.allocAt]) ?_
      obtain ⟨image, inits⟩ : ∃ image, simguiInitImage g (simguiImageDescDefaults g desc) filterable = some image :=
        assert_exists default (assert_exists unfilterable ⟨_, rfl⟩)
      exact bind_exists inits ⟨_, rfl⟩

end WakeAlpha.Imgui
