import WakeAlpha.Imgui.Emits

set_option autoImplicit false

namespace WakeAlpha.Imgui

open WakeAlpha.Gfx WakeAlpha.Words

-- A number in little-endian bytes.
def littleEndian : List UInt8 → Nat
  | [] => 0
  | byte :: rest => byte.toNat + 256 * littleEndian rest

def ImDrawIdx.value (index : ImDrawIdx) : Nat := littleEndian index.bytes

-- The vertex that element i of a command stands for in its own list.
def ImDrawList.element (cl : ImDrawList) (cmd : ImDrawCmd) (i : Nat) : Option (List UInt8) := do
  let index ← cl.idxBuffer[cmd.idxOffset.toNat + i]?
  let vertex ← cl.vtxBuffer[cmd.vtxOffset.toNat + index.value]?
  return vertex.bytes

def ImDrawList.elements (cl : ImDrawList) (cmd : ImDrawCmd) : List (Option (List UInt8)) :=
  (List.range cmd.elemCount.toNat).map (cl.element cmd)

def ImDrawCmd.drawing (cmd : ImDrawCmd) : Bool :=
  match cmd.callback with
  | .none => true
  | _ => false

-- The commands of a list that draw, not those that only call back.
def ImDrawList.drawing (cl : ImDrawList) : List ImDrawCmd := cl.cmdBuffer.filter ImDrawCmd.drawing

-- What the two buffers of the renderer hold, as far as it is known.
structure Held where
  vertices : Option (List UInt8) := none
  indices : Option (List UInt8) := none

def rewrites (id : UInt32) : SgCall → Bool
  | .dealloc .buffer other | .init .buffer other _ _ | .uninit .buffer other | .fail .buffer other
  | .destroy .buffer other | .updateBuffer other _ _ | .appendBuffer other _ _ => other == id
  | _ => false

def Simgui.stored (g : Simgui) (held : Held) : ImCall → Held
  | .sg (.updateBuffer id data _) =>
      { vertices := if id = g.vbuf then data.ptr.map (List.take data.size) else held.vertices
        indices := if id = g.ibuf then data.ptr.map (List.take data.size) else held.indices }
  | .sg _ => held
  | .callback calls =>
      { vertices := if calls.any (rewrites g.vbuf) then none else held.vertices
        indices := if calls.any (rewrites g.ibuf) then none else held.indices }

def readAt (bytes : List UInt8) (start : Int) (size : Nat) : Option (List UInt8) :=
  if 0 ≤ start then sliceAt bytes start.toNat size else none

-- What the device reads for element i of a draw: the index from the index buffer and the vertex with
-- this index from the vertex buffer, each from the offset that is bound.
def Draw.element (g : Simgui) (held : Held) (draw : Draw) (i : Nat) : Option (List UInt8) := do
  let bindings ← draw.state.bindings
  let offset ← bindings.vertexBufferOffsets.head?
  if bindings.vertexBuffers = [g.vbuf] ∧ bindings.indexBuffer = g.ibuf then
    let index ← readAt (← held.indices) (bindings.indexBufferOffset + (draw.baseElement + i) * sizeofImDrawIdx)
      sizeofImDrawIdx
    readAt (← held.vertices) (offset + littleEndian index * sizeofImDrawVert) sizeofImDrawVert
  else none

def Draw.elements (g : Simgui) (held : Held) (draw : Draw) : List (Option (List UInt8)) :=
  (List.range draw.numElements.toNat).map (draw.element g held)

-- The vertices of every draw, each read at the moment of the draw.
def fetchedOf (g : Simgui) (d : DrawState) (held : Held) : List ImCall → List (List (Option (List UInt8)))
  | [] => []
  | call :: rest =>
      (drawAt d call).map (Draw.elements g held) ++ fetchedOf g (d.after call) (g.stored held call) rest

variable {mode : Comparison} {g : Simgui} {frame : RenderFrame} {vbOffset ibOffset : Int}
variable {state next : RenderState} {d : DrawState} {calls : List ImCall} {held : Held}

-- The buffers hold these bytes, where there are any.
structure Serves (held : Held) (vtx idx : List UInt8) : Prop where
  vertices : vtx ≠ [] → held.vertices = some vtx
  indices : idx ≠ [] → held.indices = some idx

theorem read_nat (bytes : List UInt8) (start size : Nat) : readAt bytes start size = sliceAt bytes start size := by
  rw [readAt, if_pos (Int.natCast_nonneg start), Int.toNat_natCast]

theorem slice_nonempty {bytes record : List UInt8} {start size : Nat} (pos : 0 < size)
    (found : sliceAt bytes start size = some record) : bytes ≠ [] := by
  intro empty
  subst empty
  have large : ¬ start + size ≤ ([] : List UInt8).length := by
    rw [List.length_nil]
    omega
  rw [sliceAt, if_neg large] at found
  cases found

theorem element_fetched {cl : ImDrawList} {cmd : ImDrawCmd} {i : Nat} {bytes vbefore vafter ibefore iafter : List UInt8}
    {draw : Draw} (serves : Serves held (vbefore ++ cl.vertices ++ vafter) (ibefore ++ cl.indices ++ iafter))
    (vertices : cl.vertices.length < 2 ^ 31) (indices : cl.indices.length < 2 ^ 31)
    (here : cl.element cmd i = some bytes) (base : draw.baseElement = castInt cmd.idxOffset.toNat)
    (bound : draw.state.bindings = some (g.bindingsFor cmd.textureId
      (vbefore.length + castInt (cmd.vtxOffset.toNat * sizeofImDrawVert)) ibefore.length)) :
    draw.element g held i = some bytes := by
  obtain ⟨index, indexed, here⟩ := Option.bind_eq_some_iff.mp here
  obtain ⟨vertex, chosen, here⟩ := Option.bind_eq_some_iff.mp here
  cases here
  obtain ⟨indexBound, -⟩ := List.getElem?_eq_some_iff.mp indexed
  obtain ⟨vertexBound, -⟩ := List.getElem?_eq_some_iff.mp chosen
  have indexAt := record_within ImDrawIdx.sizeof ibefore iafter indexed
  have vertexAt := record_within ImDrawVert.sizeof vbefore vafter chosen
  rw [vertices_length] at vertices
  rw [indices_length] at indices
  unfold sizeofImDrawVert at vertices
  unfold sizeofImDrawIdx at indices
  have indexPosition : (ibefore.length : Int) + (draw.baseElement + i) * sizeofImDrawIdx =
      ((ibefore.length + (cmd.idxOffset.toNat + i) * sizeofImDrawIdx : Nat) : Int) := by
    rw [base, cast_int_of_small (by omega)]
    push_cast
    rfl
  have vertexPosition : (vbefore.length : Int) + castInt (cmd.vtxOffset.toNat * sizeofImDrawVert) +
      littleEndian index.bytes * sizeofImDrawVert =
      ((vbefore.length + (cmd.vtxOffset.toNat + index.value) * sizeofImDrawVert : Nat) : Int) := by
    rw [cast_int_of_small (by unfold sizeofImDrawVert; omega), Nat.add_mul]
    push_cast
    rw [Int.add_assoc]
    rfl
  have fetched : readAt (ibefore ++ cl.indices ++ iafter) (ibefore.length + (draw.baseElement + i) * sizeofImDrawIdx)
      sizeofImDrawIdx = some index.bytes := by
    rw [indexPosition, read_nat]
    exact indexAt
  have assembled : readAt (vbefore ++ cl.vertices ++ vafter) (vbefore.length +
      castInt (cmd.vtxOffset.toNat * sizeofImDrawVert) + littleEndian index.bytes * sizeofImDrawVert)
      sizeofImDrawVert = some vertex.bytes := by
    rw [vertexPosition, read_nat]
    exact vertexAt
  have indexBytes := serves.indices (slice_nonempty (by decide) indexAt)
  have vertexBytes := serves.vertices (slice_nonempty (by decide) vertexAt)
  rw [Draw.element, bound, indexBytes, vertexBytes]
  refine (if_pos ⟨rfl, rfl⟩).trans ?_
  change (readAt (ibefore ++ cl.indices ++ iafter) (ibefore.length + (draw.baseElement + i) * sizeofImDrawIdx)
    sizeofImDrawIdx >>= fun index => _) = _
  rw [fetched]
  exact assembled

theorem elements_fetched {cl : ImDrawList} {cmd : ImDrawCmd} {vbefore vafter ibefore iafter : List UInt8}
    {draw : Draw} (serves : Serves held (vbefore ++ cl.vertices ++ vafter) (ibefore ++ cl.indices ++ iafter))
    (vertices : cl.vertices.length < 2 ^ 31) (indices : cl.indices.length < 2 ^ 31)
    (wellFormed : ∀ i < cmd.elemCount.toNat, (cl.element cmd i).isSome)
    (base : draw.baseElement = castInt cmd.idxOffset.toNat) (count : draw.numElements = castInt cmd.elemCount.toNat)
    (bound : draw.state.bindings = some (g.bindingsFor cmd.textureId
      (vbefore.length + castInt (cmd.vtxOffset.toNat * sizeofImDrawVert)) ibefore.length)) :
    draw.elements g held = cl.elements cmd := by
  have small : cmd.elemCount.toNat < 2 ^ 31 := by
    by_cases drawn : cmd.elemCount.toNat = 0
    · omega
    · obtain ⟨bytes, here⟩ := Option.isSome_iff_exists.mp (wellFormed (cmd.elemCount.toNat - 1) (by omega))
      obtain ⟨index, indexed, -⟩ := Option.bind_eq_some_iff.mp here
      obtain ⟨within, -⟩ := List.getElem?_eq_some_iff.mp indexed
      rw [indices_length, sizeofImDrawIdx] at indices
      omega
  rw [Draw.elements, ImDrawList.elements, count, cast_int_of_small small, Int.toNat_natCast]
  apply List.map_congr_left
  intro i member
  obtain ⟨bytes, here⟩ := Option.isSome_iff_exists.mp (wellFormed i (List.mem_range.mp member))
  rw [here]
  exact element_fetched serves vertices indices here base bound

theorem plain_cmds_fetched {cl : ImDrawList} {cmds : List ImDrawCmd} {vbefore vafter ibefore iafter : List UInt8}
    (serves : Serves held (vbefore ++ cl.vertices ++ vafter) (ibefore ++ cl.indices ++ iafter))
    (vertices : cl.vertices.length < 2 ^ 31) (indices : cl.indices.length < 2 ^ 31)
    (wellFormed : ∀ cmd ∈ cmds, cmd.drawing = true → ∀ i < cmd.elemCount.toNat, (cl.element cmd i).isSome)
    (d : DrawState) :
    (drawsOf d (cmds.flatMap (plainCmd g frame vbefore.length ibefore.length))).map (Draw.elements g held) =
      (cmds.filter ImDrawCmd.drawing).map cl.elements := by
  induction cmds generalizing d with
  | nil => rfl
  | cons cmd rest ih =>
      have later := fun d => ih (fun other member => wellFormed other (by simp [member])) d
      rw [List.flatMap_cons, draws_append, List.map_append, later]
      cases callback : cmd.callback with
      | none =>
          have drawing : cmd.drawing = true := by rw [ImDrawCmd.drawing, callback]
          rw [plain_draws d callback, List.filter_cons_of_pos drawing]
          apply congrArg (fun first => first :: _)
          exact elements_fetched serves vertices indices (wellFormed cmd (by simp) drawing) rfl rfl rfl
      | resetRenderState | user calls =>
          have aside : ¬ cmd.drawing = true := by rw [ImDrawCmd.drawing, callback]; simp
          rw [plainCmd, callback, List.filter_cons_of_neg aside]
          rfl

theorem plain_lists_fetched {lists : List ImDrawList} {vbefore ibefore : List UInt8}
    (serves : Serves held (vbefore ++ lists.flatMap ImDrawList.vertices) (ibefore ++ lists.flatMap ImDrawList.indices))
    (vertices : (lists.flatMap ImDrawList.vertices).length < 2 ^ 31)
    (indices : (lists.flatMap ImDrawList.indices).length < 2 ^ 31)
    (wellFormed : ∀ cl ∈ lists, ∀ cmd ∈ cl.cmdBuffer, cmd.drawing = true →
      ∀ i < cmd.elemCount.toNat, (cl.element cmd i).isSome) (d : DrawState) :
    (drawsOf d (plainLists g frame lists vbefore.length ibefore.length)).map (Draw.elements g held) =
      lists.flatMap fun cl => cl.drawing.map cl.elements := by
  induction lists generalizing vbefore ibefore d with
  | nil => rfl
  | cons cl rest ih =>
      rw [List.flatMap_cons, List.length_append] at vertices indices
      rw [List.flatMap_cons, List.flatMap_cons, ← List.append_assoc, ← List.append_assoc] at serves
      have vnext : (vbefore.length : Int) + castInt (cl.vtxBuffer.length * sizeofImDrawVert) =
          ((vbefore ++ cl.vertices).length : Int) := by
        rw [← vertices_length, cast_int_of_small (by omega), List.length_append]
        rfl
      have inext : (ibefore.length : Int) + castInt (cl.idxBuffer.length * sizeofImDrawIdx) =
          ((ibefore ++ cl.indices).length : Int) := by
        rw [← indices_length, cast_int_of_small (by omega), List.length_append]
        rfl
      rw [plainLists, draws_append, List.map_append, List.flatMap_cons, vnext, inext,
        plain_cmds_fetched serves (by omega) (by omega) (wellFormed cl (by simp)) d,
        ih serves (by omega) (by omega) (fun other member => wellFormed other (by simp [member]))]
      rfl

theorem fetched_append (first second : List ImCall) :
    fetchedOf g d held (first ++ second) =
      fetchedOf g d held first ++ fetchedOf g (first.foldl DrawState.after d) (first.foldl g.stored held) second := by
  induction first generalizing d held with
  | nil => rfl
  | cons call rest ih =>
      rw [List.cons_append, fetchedOf, fetchedOf, ih, List.append_assoc]
      rfl

-- Calls that leave the two buffers alone.
def Simgui.Spares (g : Simgui) (calls : List ImCall) : Prop := ∀ call ∈ calls, ∀ held, g.stored held call = held

theorem fetched_spared (spares : g.Spares calls) :
    fetchedOf g d held calls = (drawsOf d calls).map (Draw.elements g held) := by
  induction calls generalizing d with
  | nil => rfl
  | cons call rest ih =>
      rw [fetchedOf, drawsOf, List.map_append, spares call (by simp), ih fun other member => spares other (by simp [member])]

theorem emitted_spares {lists : List ImDrawList} {call : ImCall}
    (user : ∀ cl ∈ lists, ∀ cmd ∈ cl.cmdBuffer, ∀ calls, cmd.callback = .user calls →
      ∀ call ∈ calls, rewrites g.vbuf call = false ∧ rewrites g.ibuf call = false)
    (emitted : Emitted g frame lists call) (held : Held) : g.stored held call = held := by
  cases emitted with
  | callback cl listed cmd inside calls callback =>
      have vertexSpared : calls.any (rewrites g.vbuf) = false := by
        rw [List.any_eq_false]
        intro call called
        rw [(user cl listed cmd inside calls callback call called).1]
        exact Bool.false_ne_true
      have indexSpared : calls.any (rewrites g.ibuf) = false := by
        rw [List.any_eq_false]
        intro call called
        rw [(user cl listed cmd inside calls callback call called).2]
        exact Bool.false_ne_true
      rw [Simgui.stored, vertexSpared, indexSpared]
      rfl
  | _ => rfl

theorem uploads_served (frame : RenderFrame) (d : DrawState) (held : Held) (distinct : g.vbuf ≠ g.ibuf)
    (vtx idx : List UInt8) :
    Serves ((uploads g frame vtx idx).foldl g.stored held) vtx idx ∧ fetchedOf g d held (uploads g frame vtx idx) = [] := by
  unfold uploads
  cases vtx with
  | nil =>
      cases idx with
      | nil => exact ⟨⟨fun bytes => absurd rfl bytes, fun bytes => absurd rfl bytes⟩, rfl⟩
      | cons index indices =>
          rw [if_neg (by simp), if_pos (by simp)]
          refine ⟨⟨fun bytes => absurd rfl bytes, fun _ => ?_⟩, rfl⟩
          simp [Simgui.stored]
  | cons vertex vertices =>
      cases idx with
      | nil =>
          rw [if_pos (by simp), if_neg (by simp)]
          refine ⟨⟨fun _ => ?_, fun bytes => absurd rfl bytes⟩, rfl⟩
          simp [Simgui.stored]
      | cons index indices =>
          rw [if_pos (by simp), if_pos (by simp)]
          refine ⟨⟨fun _ => ?_, fun _ => ?_⟩, rfl⟩
          · simp [Simgui.stored, distinct.symm]
          · simp [Simgui.stored]

theorem seen_elements (draws : List Draw) :
    (draws.map (Draw.seen .apartFromPipelines)).map (Draw.elements g held) = draws.map (Draw.elements g held) := by
  rw [List.map_map]
  rfl

end WakeAlpha.Imgui
