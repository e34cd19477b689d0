import ShaderWeave.Proofs.Lighting.Grants
import ShaderWeave.Proofs.Lighting.Rosters

/-! # Packed buffers

An update sizes the buffers of a bucket for its lights and writes each light into the row of its place. The rows of
different lights never overlap, whatever the widths of the attributes are, so afterwards each row has what the light in
its place packs to, and nothing is left of earlier updates.

A write that does not fit is dropped, and buffers beyond the attributes would not be written at all. Neither happens
while each attribute has a buffer of its width.
-/

namespace ShaderWeave

/-! ## Rows of a buffer -/

namespace LightBuffer

variable {buffer : LightBuffer} {index : Nat} {row : List Single}

theorem row_le (inside : index < buffer.count) :
    index * buffer.stride + buffer.stride ≤ buffer.values.length := by
  rw [buffer.length_values, ← Nat.succ_mul]
  exact Nat.mul_le_mul_right _ inside

theorem row?_eq (inside : index < buffer.count) :
    buffer.row? index = some ((buffer.view.drop (index * buffer.stride)).take buffer.stride) :=
  if_pos (row_le inside)

theorem write?_eq (inside : index < buffer.count) (width : row.length = buffer.stride) :
    buffer.write? index row = some (buffer.write index row) := by
  have fits := And.intro (row_le inside) width
  simp only [write, write?, fits, and_self, dif_pos, Option.getD_some]

theorem view_write (inside : index < buffer.count) (width : row.length = buffer.stride) :
    (buffer.write index row).view = buffer.view.take (index * buffer.stride) ++ row ++
      buffer.view.drop (index * buffer.stride + buffer.stride) := by
  have fits := And.intro (row_le inside) width
  simp only [write, write?, fits, and_self, dif_pos, Option.getD_some]
  rfl

theorem length_front (inside : index < buffer.count) :
    (buffer.view.take (index * buffer.stride)).length = index * buffer.stride := by
  have le := row_le inside
  rw [List.length_take, view]
  omega

theorem row?_write_self (inside : index < buffer.count) (width : row.length = buffer.stride) :
    (buffer.write index row).row? index = some row := by
  rw [row?_eq (by simpa using inside), view_write inside width, stride_write, List.append_assoc]
  nth_rewrite 1 [← length_front inside]
  rw [List.drop_left, ← width, List.take_left]

/-- A write leaves the rows in other places alone. -/
theorem row?_write_of_ne (inside : index < buffer.count) (width : row.length = buffer.stride) {other : Nat}
    (there : other < buffer.count) (apart : other ≠ index) :
    (buffer.write index row).row? other = buffer.row? other := by
  rw [row?_eq (by simpa using there), row?_eq there, view_write inside width, stride_write]
  congr 1
  have front := length_front inside
  rcases Nat.lt_or_gt_of_ne apart with before | behind
  · have ends : other * buffer.stride + buffer.stride ≤ index * buffer.stride := by
      rw [← Nat.succ_mul]
      exact Nat.mul_le_mul_right _ before
    rw [List.append_assoc, List.drop_append_of_le_length (by omega),
      List.take_append_of_le_length (by rw [List.length_drop]; omega), List.drop_take, List.take_take, Nat.min_eq_left]
    omega
  · have starts : index * buffer.stride + buffer.stride ≤ other * buffer.stride := by
      rw [← Nat.succ_mul]
      exact Nat.mul_le_mul_right _ behind
    have passed : (buffer.view.take (index * buffer.stride) ++ row).length ≤ other * buffer.stride := by
      rw [List.length_append, front, width]
      exact starts
    rw [List.drop_append, List.drop_of_length_le passed, List.nil_append, List.drop_drop, List.length_append, front,
      width]
    congr 2
    omega

end LightBuffer

/-! ## Writes of a pass -/

namespace LightBucket

variable {layout : List (String × LightAttribute)} {lights : Arena .light Light} {buffers : List LightBuffer}

theorem Fits.stride_eq (fits : Fits layout buffers) {place : Nat} {part : String × LightAttribute}
    {buffer : LightBuffer} (isPart : layout[place]? = some part) (isBuffer : buffers[place]? = some buffer) :
    buffer.stride = part.2.components := by
  have isPair : (layout.zip buffers)[place]? = some (part, buffer) := List.getElem?_zip_eq_some.2 ⟨isPart, isBuffer⟩
  exact (List.forall₂_iff_zip.1 fits).2 (List.mem_of_getElem? isPair)

theorem getElem?_packInto {light : Light} {index place : Nat} {name : String} {part : LightAttribute}
    {buffer : LightBuffer} (isPart : layout[place]? = some (name, part)) (isBuffer : buffers[place]? = some buffer) :
    (packInto layout light index buffers)[place]? = some (buffer.write index (part.pack light)) := by
  have isPair : (layout.zip buffers)[place]? = some ((name, part), buffer) :=
    List.getElem?_zip_eq_some.2 ⟨isPart, isBuffer⟩
  rw [packInto, List.getElem?_map, isPair]
  rfl

/-- No write of a pass is dropped: when it is made, its row has the width of the buffer and a place there. -/
def RowsFit (layout : List (String × LightAttribute)) (lights : Arena .light Light) :
    Nat → List LightBuffer → List BucketEntry → Prop
  | _, _, [] => True
  | index, buffers, entry :: rest =>
    match lights.get? entry.light with
    | none => RowsFit layout lights (index + 1) buffers rest
    | some light =>
      (∀ row ∈ layout.zip buffers, (row.2.write? index (row.1.2.pack light)).isSome) ∧
        RowsFit layout lights (index + 1) (packInto layout light index buffers) rest

variable {count index : Nat} {entries : List BucketEntry}

theorem rowsFit (fits : Fits layout buffers) (counts : ∀ buffer ∈ buffers, buffer.count = count)
    (room : index + entries.length ≤ count) : RowsFit layout lights index buffers entries := by
  induction entries generalizing index buffers with
  | nil => trivial
  | cons entry rest ih =>
    rw [List.length_cons] at room
    have later : index + 1 + rest.length ≤ count := by omega
    rw [RowsFit]
    split
    · exact ih fits counts later
    · next light _ =>
      refine ⟨?_, ih (fits_packInto fits light index) (counts_packInto counts light index) later⟩
      rintro ⟨⟨name, part⟩, buffer⟩ isPair
      have width := (List.forall₂_iff_zip.1 fits).2 isPair
      have inside : index < buffer.count := by
        rw [counts buffer (List.of_mem_zip isPair).2]
        omega
      rw [LightBuffer.write?_eq inside (by rw [LightAttribute.length_pack, width])]
      rfl

/-- A pass packs each light that it finds into the row of its place, and leaves the rows in front of its first one. -/
theorem rows_updateEntries (fits : Fits layout buffers) (counts : ∀ buffer ∈ buffers, buffer.count = count)
    (room : index + entries.length ≤ count) (pool : ShadowPool) {place : Nat} {name : String} {part : LightAttribute}
    {buffer : LightBuffer} (isPart : layout[place]? = some (name, part)) (isBuffer : buffers[place]? = some buffer) :
    ∃ after, (updateEntries layout lights index buffers pool entries).2.2.1[place]? = some after ∧
      (∀ other < index, after.row? other = buffer.row? other) ∧
      ∀ offset entry light, entries[offset]? = some entry → lights.get? entry.light = some light →
        after.row? (index + offset) = some (part.pack light) := by
  -- That the rows in front stay is what keeps the row of an entry while the entries behind it are packed.
  induction entries generalizing index buffers pool buffer with
  | nil => exact ⟨buffer, isBuffer, fun _ _ => rfl, by simp⟩
  | cons entry rest ih =>
    rw [List.length_cons] at room
    have later : index + 1 + rest.length ≤ count := by omega
    rw [updateEntries]
    split
    · next gone =>
      obtain ⟨after, isAfter, front, rows⟩ := ih fits counts later pool isBuffer
      refine ⟨after, isAfter, fun other before => front other (by omega), ?_⟩
      rintro (_ | offset) found light isEntry held
      · cases isEntry
        simp [gone] at held
      · rw [Nat.add_comm offset, ← Nat.add_assoc]
        exact rows offset found light isEntry held
    · next light held =>
      have width : (part.pack light).length = buffer.stride := by
        rw [LightAttribute.length_pack, fits.stride_eq isPart isBuffer]
      have size := counts buffer (List.mem_of_getElem? isBuffer)
      have inside : index < buffer.count := by omega
      obtain ⟨after, isAfter, front, rows⟩ := ih (fits_packInto fits light index) (counts_packInto counts light index)
        later (claimSlot light pool).2 (getElem?_packInto isPart isBuffer)
      refine ⟨after, isAfter, fun other before => ?_, ?_⟩
      · rw [front other (by omega), LightBuffer.row?_write_of_ne inside width (by omega) (by omega)]
      · rintro (_ | offset) found other isEntry held'
        · cases isEntry
          obtain rfl : light = other := Option.some.inj (held.symm.trans held')
          rw [Nat.add_zero, front index (Nat.lt_succ_self index), LightBuffer.row?_write_self inside width]
        · rw [Nat.add_comm offset, ← Nat.add_assoc]
          exact rows offset found other isEntry held'

/-! ## Buffers by their uniforms -/

private theorem find?_zip {uniform : String} {part : LightAttribute} {buffer : LightBuffer} {place : Nat}
    (names : (layout.map (·.1)).Nodup) (isPart : layout[place]? = some (uniform, part))
    (isBuffer : buffers[place]? = some buffer) :
    (layout.zip buffers).find? (fun row => row.1.1 == uniform) = some ((uniform, part), buffer) := by
  induction layout generalizing place buffers with
  | nil => simp at isPart
  | cons first parts ih =>
    obtain ⟨absent, names⟩ := List.nodup_cons.1 names
    cases buffers with
    | nil => simp at isBuffer
    | cons here others =>
      cases place with
      | zero =>
        cases isPart
        cases isBuffer
        simp
      | succ place =>
        have later : uniform ∈ parts.map (·.1) := List.mem_map.2 ⟨_, List.mem_of_getElem? isPart, rfl⟩
        have apart : (first.1 == uniform) = false := beq_eq_false_iff_ne.2 (ne_of_mem_of_not_mem later absent).symm
        rw [List.zip_cons_cons, List.find?_cons, apart]
        exact ih names isPart isBuffer

/-- The uniforms of a layout differ, so each names the buffer in the place of its attribute. -/
theorem buffer?_eq {bucket : LightBucket} {place : Nat} {uniform : String} {part : LightAttribute}
    {buffer : LightBuffer} (isPart : bucket.type.layout[place]? = some (uniform, part))
    (isBuffer : bucket.buffers[place]? = some buffer) : bucket.buffer? uniform = some buffer := by
  have names : (bucket.type.layout.map (·.1)).Nodup := by cases bucket.type <;> decide
  have search := find?_zip names isPart isBuffer
  rw [buffer?, uniforms]
  simp [search]

/-- Each buffer has a row for every light, and the light in its place packs to it. -/
def Mirrors (bucket : LightBucket) (lights : Arena .light Light) : Prop :=
  ∀ uniform part, (uniform, part) ∈ bucket.type.layout → ∃ buffer, bucket.buffer? uniform = some buffer ∧
    buffer.count = bucket.size ∧ buffer.view.length = bucket.size * part.components ∧
    ∀ (index : Nat) (id : LightId) (light : Light), bucket.lights[index]? = some id → lights.get? id = some light →
      (buffer.view.drop (index * part.components)).take part.components = part.pack light

/-- The buffers of a bucket, with a row for each of its lights. -/
def sizedBuffers (bucket : LightBucket) : List LightBuffer :=
  bucket.buffers.map fun buffer => (buffer.resize bucket.size).2

variable {bucket : LightBucket}

theorem Shaped.fits_sizedBuffers (shaped : bucket.Shaped) : Fits bucket.type.layout bucket.sizedBuffers := by
  rw [sizedBuffers, Fits, List.forall₂_map_right_iff]
  exact shaped.imp fun part buffer width => (buffer.stride_resize bucket.size).trans width

theorem count_of_mem_sizedBuffers (bucket : LightBucket) :
    ∀ buffer ∈ bucket.sizedBuffers, buffer.count = bucket.size := by
  simp [sizedBuffers]

/-- No write of an update is dropped. -/
def WritesFit (bucket : LightBucket) (lights : Arena .light Light) : Prop :=
  RowsFit bucket.type.layout lights 0 bucket.sizedBuffers bucket.entries

theorem Shaped.writesFit (shaped : bucket.Shaped) (lights : Arena .light Light) : bucket.WritesFit lights :=
  rowsFit shaped.fits_sizedBuffers bucket.count_of_mem_sizedBuffers (by simp [LightBucket.size])

theorem Fits.exists_buffer (fits : Fits layout buffers) {place : Nat} {part : String × LightAttribute}
    (isPart : layout[place]? = some part) : ∃ buffer : LightBuffer, buffers[place]? = some buffer := by
  have inside : place < buffers.length := by
    rw [← List.Forall₂.length_eq fits]
    exact (List.getElem?_eq_some_iff.1 isPart).1
  exact ⟨_, List.getElem?_eq_getElem inside⟩

/-- After an update, the buffers mirror the lights of the map. -/
theorem Shaped.update_mirrors (shaped : bucket.Shaped) (lights : Arena .light Light) (pool : ShadowPool) :
    (bucket.update lights pool).2.1.Mirrors lights := by
  intro uniform part member
  obtain ⟨place, isPart⟩ := List.mem_iff_getElem?.1 member
  obtain ⟨sized, isSized⟩ := shaped.fits_sizedBuffers.exists_buffer isPart
  obtain ⟨buffer, isBuffer, -, rows⟩ : ∃ buffer, (bucket.update lights pool).2.1.buffers[place]? = some buffer ∧
      (∀ other < 0, buffer.row? other = sized.row? other) ∧
      ∀ (index : Nat) (entry : BucketEntry) (light : Light), bucket.entries[index]? = some entry →
        lights.get? entry.light = some light → buffer.row? (0 + index) = some (part.pack light) :=
    rows_updateEntries shaped.fits_sizedBuffers bucket.count_of_mem_sizedBuffers (by simp [LightBucket.size]) pool
      isPart isSized
  have width : buffer.stride = part.components := (shaped_update shaped lights pool).stride_eq isPart isBuffer
  have count : buffer.count = (bucket.update lights pool).2.1.size :=
    (bucket.packed_update lights pool).counts buffer (List.mem_of_getElem? isBuffer)
  refine ⟨buffer, buffer?_eq isPart isBuffer, count, by rw [buffer.length_view, count, width], ?_⟩
  intro index id light listed held
  rw [lights_update, LightBucket.lights, List.getElem?_map, Option.map_eq_some_iff] at listed
  obtain ⟨entry, isEntry, rfl⟩ := listed
  have row := rows index entry light isEntry held
  have inside : index < buffer.count := by
    rw [count, size_update]
    exact (List.getElem?_eq_some_iff.1 isEntry).1
  rw [Nat.zero_add, LightBuffer.row?_eq inside, width] at row
  exact Option.some.inj row

end LightBucket

/-! ## Buffers of a model -/

namespace LightModel

variable {order : List LightId} {model : LightModel} {graph : ChunkGraph}

/-- An update succeeds, and no write of it is dropped. Afterwards each bucket lists the live lights of its type as they
were added, and its buffers have a row for each of them, with what the light in its place packs to now. -/
theorem update_packs (reached : Reached order model graph) :
    ∃ after, model.update graph = (.ok (), after) ∧ ∀ type, ∃ before bucket,
      graph.lightBucket? (model.bucket type) = some before ∧
        before.WritesFit model.lights ∧ after.lightBucket? (model.bucket type) = some bucket ∧ bucket.type = type ∧
        bucket.lights = order.filter (model.typed type) ∧ (∀ id ∈ bucket.lights, (model.light? id).isSome) ∧
        bucket.Mirrors model.lights := by
  have kept := reached.kept
  obtain ⟨after, updated, settled⟩ := kept.update
  obtain ⟨states, proper, states_of⟩ := reached.formed.exists_states
  refine ⟨after, updated, fun type => ?_⟩
  obtain ⟨before, pool, found, stored⟩ := kept.updated_update type
  obtain rfl : states.bucket type = before := by simpa using (states_of.bucket type).symm.trans found
  rw [updated] at stored
  obtain ⟨bucket, known, listed⟩ := settled.kept.buckets type
  obtain rfl : bucket = ((states.bucket type).update model.lights pool).2.1 := by simpa using known.symm.trans stored
  refine ⟨_, _, ChunkGraph.lightBucket?_eq_some_iff.2 found, (proper.shaped type).writesFit _,
    ChunkGraph.lightBucket?_eq_some_iff.2 stored, proper.type type, listed, fun id member => ?_,
    (proper.shaped type).update_mirrors _ pool⟩
  rw [listed] at member
  exact (settled.kept.live id).1 (List.mem_of_mem_filter member)

/-- After an update the first of two lights goes and the other one moves. The next update puts it into the first row, in
its new place. -/
theorem update_packs_moved_light :
    ∃ model graph after bucket buffer, Reached [⟨2, 1⟩] model graph ∧ model.update graph = (.ok (), after) ∧
      after.lightBucket? (model.bucket .point) = some bucket ∧ bucket.buffer? "uLPointPositions" = some buffer ∧
      buffer.view = Vec3.backward.toList := by
  let lamp := Light.point .zero .one
  obtain ⟨⟨settings, lights, chunks⟩, -, -, made, rfl, rfl, -⟩ := new_spec .empty {}
  have both := ((Reached.new made).addLight lamp).addLight lamp
  have moved := (both.update.removeLight ⟨1, 1⟩).modifyLight ⟨2, 1⟩ (fun light => { light with position := .backward })
    fun _ _ => rfl
  rw [removeLight_model, addLight_model, addLight_model] at moved
  obtain ⟨after, updated, buckets⟩ := update_packs moved
  obtain ⟨-, bucket, -, -, stored, type, listed, -, mirrors⟩ := buckets .point
  obtain ⟨buffer, named, -, length, rows⟩ := mirrors "uLPointPositions" .position (by rw [type]; decide)
  have lights : bucket.lights = [⟨2, 1⟩] := listed
  have size : bucket.size = 1 := by simpa [LightBucket.lights, LightBucket.size] using congrArg List.length lights
  have row := rows 0 ⟨2, 1⟩ { lamp with position := .backward } (by rw [lights]; rfl) rfl
  rw [size, Nat.one_mul] at length
  rw [Nat.zero_mul, List.drop_zero, ← length, List.take_length] at row
  exact ⟨_, _, after, bucket, buffer, moved, updated, stored, named, row⟩

end LightModel

end ShaderWeave
