import ShaderWeave.Proofs.Lighting.Packing

/-! # Buffers as lists of rows

A buffer stores its rows one behind the other and counts them, and whoever uses it sees a list of rows of one width.
Each edit of the buffer is the same edit of that list, also after any mix of growing, shrinking and writing: rows that
were dropped are gone, and rows that are appended have zeros.
-/

namespace ShaderWeave

/-- A change of a buffer: its number of rows, or the numbers of one row. -/
inductive BufferEdit where
  | resize (count : Nat)
  | write (index : Nat) (row : List Single)
  deriving DecidableEq, Repr

/-! ## Lists of rows -/

namespace Rows

/-- Keeps the rows in front and fills new ones with zeros. -/
def resize (width : Nat) (rows : List (List Single)) (count : Nat) : List (List Single) :=
  rows.take count ++ List.replicate (count - rows.length) (List.replicate width .zero)

/-- An edit of a list of rows of one width. A new number of rows that no allocation holds is refused, and so are numbers
for a row that is not there or has another width. -/
def edit? (width : Nat) (rows : List (List Single)) : BufferEdit → Option (List (List Single))
  | .resize count =>
    if count = rows.length ∨ count * width * 4 < LightBuffer.addressLimit / 2 then some (resize width rows count)
    else none
  | .write index row => if index < rows.length ∧ row.length = width then some (rows.set index row) else none

def run? (width : Nat) (rows : List (List Single)) (edits : List BufferEdit) : Option (List (List Single)) :=
  edits.foldlM (edit? width) rows

variable {width index : Nat} {rows : List (List Single)}

theorem length_resize (width : Nat) (rows : List (List Single)) (count : Nat) :
    (resize width rows count).length = count := by
  rw [resize, List.length_append, List.length_take, List.length_replicate]
  omega

theorem resize_length (width : Nat) (rows : List (List Single)) : resize width rows rows.length = rows := by
  rw [resize, List.take_length, Nat.sub_self, List.replicate_zero, List.append_nil]

theorem length_flatten (wide : ∀ row ∈ rows, row.length = width) : rows.flatten.length = rows.length * width := by
  rw [List.length_flatten, List.map_congr_left wide, List.map_const', List.sum_replicate_nat]

/-- The first rows are the first numbers. -/
theorem take_flatten (wide : ∀ row ∈ rows, row.length = width) (count : Nat) :
    rows.flatten.take (count * width) = (rows.take count).flatten := by
  induction rows generalizing count with
  | nil => simp
  | cons row rest ih =>
    obtain ⟨here, later⟩ := List.forall_mem_cons.1 wide
    cases count with
    | zero => simp
    | succ count =>
      rw [Nat.succ_mul, Nat.add_comm, ← here, List.flatten_cons, List.take_length_add_append, here, ih later,
        List.take_succ_cons, List.flatten_cons]

theorem drop_flatten (wide : ∀ row ∈ rows, row.length = width) (count : Nat) :
    rows.flatten.drop (count * width) = (rows.drop count).flatten := by
  have split : (rows.take count).flatten ++ (rows.drop count).flatten = rows.flatten := by
    rw [← List.flatten_append, List.take_append_drop]
  rw [← take_flatten wide] at split
  exact List.append_cancel_left ((List.take_append_drop ..).trans split.symm)

theorem flatten_resize (wide : ∀ row ∈ rows, row.length = width) (count : Nat) :
    (resize width rows count).flatten =
      rows.flatten.take (count * width) ++ List.replicate (count * width - rows.flatten.length) .zero := by
  rw [resize, List.flatten_append, List.flatten_replicate_replicate, take_flatten wide, length_flatten wide,
    Nat.sub_mul]

theorem flatten_set (wide : ∀ row ∈ rows, row.length = width) (inside : index < rows.length) (row : List Single) :
    (rows.set index row).flatten =
      rows.flatten.take (index * width) ++ row ++ rows.flatten.drop (index * width + width) := by
  rw [List.set_eq_take_append_cons_drop, if_pos inside, ← Nat.succ_mul, take_flatten wide, drop_flatten wide,
    List.flatten_append, List.flatten_cons, List.append_assoc]

theorem row_of_flatten (wide : ∀ row ∈ rows, row.length = width) (inside : index < rows.length) :
    (rows.flatten.drop (index * width)).take width = rows[index] := by
  have here : rows[index].length = width := wide rows[index] (List.getElem_mem inside)
  rw [drop_flatten wide, List.drop_eq_getElem_cons inside, List.flatten_cons, List.take_left' here]

end Rows

/-! ## Buffers that store rows -/

namespace LightBuffer

/-- The buffer after a change, if that is possible. -/
def edit? (buffer : LightBuffer) : BufferEdit → Option LightBuffer
  | .resize count => (buffer.resize? count).map Prod.snd
  | .write index row => buffer.write? index row

def run? (buffer : LightBuffer) (edits : List BufferEdit) : Option LightBuffer :=
  edits.foldlM edit? buffer

/-- The buffer stores these rows, and all of them can be addressed. -/
structure Stores (width : Nat) (buffer : LightBuffer) (rows : List (List Single)) : Prop where
  stride : buffer.stride = width
  count : buffer.count = rows.length
  wide : ∀ row ∈ rows, row.length = width
  view : buffer.view = rows.flatten
  addressed : rows.length * width * 4 < addressLimit / 2

namespace Stores

variable {width index : Nat} {buffer : LightBuffer} {rows : List (List Single)}

theorem new (width : Nat) : Stores width (LightBuffer.new width) [] where
  stride := rfl
  count := rfl
  wide := by simp
  view := rfl
  addressed := by simp [addressLimit]

theorem sized (stores : Stores width buffer rows) {count : Nat} (fits : count * width * 4 < addressLimit / 2) :
    Stores width (buffer.sized count) (Rows.resize width rows count) where
  stride := stores.stride
  count := (Rows.length_resize ..).symm
  wide row member := by
    rcases List.mem_append.1 member with kept | added
    · exact stores.wide row (List.mem_of_mem_take kept)
    · rw [List.eq_of_mem_replicate added, List.length_replicate]
  view := by
    have values : buffer.values = rows.flatten := stores.view
    rw [Rows.flatten_resize stores.wide, ← values, ← stores.stride]
    rfl
  addressed := by rwa [Rows.length_resize]

theorem write (stores : Stores width buffer rows) (inside : index < rows.length) {row : List Single}
    (wide : row.length = width) : Stores width (buffer.write index row) (rows.set index row) where
  stride := (stride_write ..).trans stores.stride
  count := by rw [count_write, stores.count, List.length_set]
  wide other member := by
    rcases List.mem_or_eq_of_mem_set member with old | rfl
    · exact stores.wide other old
    · exact wide
  view := by
    have there : index < buffer.count := stores.count ▸ inside
    rw [view_write there (wide.trans stores.stride.symm), stores.stride, stores.view,
      Rows.flatten_set stores.wide inside]
  addressed := by
    rw [List.length_set]
    exact stores.addressed

/-- A number of rows is taken exactly if the list of rows takes it. -/
theorem edit?_resize (stores : Stores width buffer rows) (count : Nat) :
    Option.Rel (Stores width) (buffer.edit? (.resize count)) (Rows.edit? width rows (.resize count)) := by
  rw [edit?, resize?, stores.count, stores.stride, Rows.edit?]
  split
  · next fits =>
    refine .some ?_
    rw [resize, stores.count]
    split
    · next same => exact same ▸ (Rows.resize_length width rows).symm ▸ stores
    · next other => exact stores.sized (fits.resolve_left other)
  · exact .none

theorem edit?_write (stores : Stores width buffer rows) (filled : 0 < width) (index : Nat) (row : List Single) :
    Option.Rel (Stores width) (buffer.edit? (.write index row)) (Rows.edit? width rows (.write index row)) := by
  rw [edit?, Rows.edit?]
  split
  · next fits =>
    obtain ⟨inside, wide⟩ := fits
    rw [write?_eq (stores.count ▸ inside) (wide.trans stores.stride.symm)]
    exact .some (stores.write inside wide)
  · next apart =>
    -- A row of no numbers would have room behind the last one.
    have outside : ¬ (index * buffer.stride + buffer.stride ≤ buffer.values.length ∧ row.length = buffer.stride) := by
      rintro ⟨room, wide⟩
      rw [buffer.length_values, stores.count, stores.stride, ← Nat.succ_mul] at room
      exact apart ⟨Nat.le_of_mul_le_mul_right room filled, wide.trans stores.stride⟩
    rw [write?, dif_neg outside]
    exact .none

theorem edit? (stores : Stores width buffer rows) (filled : 0 < width) (edit : BufferEdit) :
    Option.Rel (Stores width) (buffer.edit? edit) (Rows.edit? width rows edit) := by
  cases edit with
  | resize count => exact stores.edit?_resize count
  | write index row => exact stores.edit?_write filled index row

theorem run? (stores : Stores width buffer rows) (filled : 0 < width) (edits : List BufferEdit) :
    Option.Rel (Stores width) (buffer.run? edits) (Rows.run? width rows edits) := by
  induction edits generalizing buffer rows with
  | nil => exact .some stores
  | cons edit rest ih =>
    rw [LightBuffer.run?, Rows.run?, List.foldlM_cons, List.foldlM_cons]
    have step := stores.edit? filled edit
    generalize buffer.edit? edit = next, Rows.edit? width rows edit = next' at step ⊢
    cases step with
    | none => exact .none
    | some later => exact ih later

/-! ## What is seen of a buffer -/

theorem lookup?_of_lt (stores : Stores width buffer rows) (inside : index < rows.length) :
    buffer.lookup? index = some (some rows[index]) := by
  have there : index < buffer.count := stores.count ▸ inside
  have ends : index * width + width ≤ rows.length * width := by
    rw [← Nat.succ_mul]
    exact Nat.mul_le_mul_right width inside
  have address : index * width + width < addressLimit := by
    have := stores.addressed
    omega
  rw [lookup?, row?_eq there, stores.stride, if_pos address, stores.view, Rows.row_of_flatten stores.wide inside]

theorem lookup?_of_le (stores : Stores width buffer rows) (filled : 0 < width) (outside : rows.length ≤ index)
    (address : index * width + width < addressLimit) : buffer.lookup? index = some none := by
  have starts : rows.length * width ≤ index * width := Nat.mul_le_mul_right width outside
  have apart : ¬ index * width + width ≤ buffer.values.length := by
    rw [buffer.length_values, stores.count, stores.stride]
    omega
  rw [lookup?, stores.stride, if_pos address, row?, stores.stride]
  exact congrArg some (if_neg apart)

theorem fst_resize? (stores : Stores width buffer rows) {count : Nat} {after : List (List Single)}
    (taken : Rows.edit? width rows (.resize count) = some after) :
    (buffer.resize? count).map Prod.fst = some (decide (count ≠ rows.length)) := by
  rw [Rows.edit?, Option.ite_none_right_eq_some] at taken
  rw [resize?, stores.count, stores.stride, if_pos taken.1, Option.map_some, resize, stores.count]
  by_cases same : count = rows.length
  · simp [same]
  · simp [same]

end Stores

/-- What is seen of a buffer is what the rows are. -/
structure Shows (width : Nat) (buffer : LightBuffer) (rows : List (List Single)) : Prop
    extends Stores width buffer rows where
  row : ∀ index (inside : index < rows.length), buffer.lookup? index = some (some rows[index])
  /-- Behind the last row there is none, as far as rows have addresses. -/
  beyond : ∀ index, rows.length ≤ index → index * width + width < addressLimit → buffer.lookup? index = some none
  /-- A number of rows that can be taken is reported exactly if it is another one. -/
  resize : ∀ count after, Rows.edit? width rows (.resize count) = some after →
    (buffer.resize? count).map Prod.fst = some (decide (count ≠ rows.length))

theorem Stores.shows {width : Nat} {buffer : LightBuffer} {rows : List (List Single)} (filled : 0 < width)
    (stores : Stores width buffer rows) : Shows width buffer rows where
  toStores := stores
  row _ inside := stores.lookup?_of_lt inside
  beyond _ outside address := stores.lookup?_of_le filled outside address
  resize _ _ taken := stores.fst_resize? taken

/-- A buffer takes the same edits as a list of rows of its width, and shows the rows that they leave. -/
theorem edits_act_on_rows {width : Nat} (filled : 0 < width) (edits : List BufferEdit) :
    Option.Rel (Shows width) ((new width).run? edits) (Rows.run? width [] edits) := by
  have run := (Stores.new width).run? filled edits
  generalize (new width).run? edits = last, Rows.run? width [] edits = last' at run ⊢
  cases run with
  | none => exact .none
  | some stores => exact .some (stores.shows filled)

/-- A row that was dropped does not come back when the buffer grows again. -/
theorem rows_after_shrinking :
    0 < 2 ∧ ∃ buffer, (new 2).run? [.resize 2, .write 1 [.one, .one], .write 0 [.zero, .one], .resize 1, .resize 3] =
      some buffer ∧ Shows 2 buffer [[.zero, .one], [.zero, .zero], [.zero, .zero]] := by
  refine ⟨by decide, ?_⟩
  have run := edits_act_on_rows (show 0 < 2 by decide)
    [.resize 2, .write 1 [.one, .one], .write 0 [.zero, .one], .resize 1, .resize 3]
  generalize (new 2).run? _ = last at run ⊢
  have rows : Rows.run? 2 [] [.resize 2, .write 1 [.one, .one], .write 0 [.zero, .one], .resize 1, .resize 3] =
      some [[.zero, .one], [.zero, .zero], [.zero, .zero]] := by decide
  rw [rows] at run
  cases run with
  | some shows => exact ⟨_, rfl, shows⟩

/-- Not every number of rows can be taken, and not every row that is missing has an address at which to miss it. -/
theorem refused_beyond_memory : (new 2).resize? (Nat.pow 2 60) = none ∧ (new 1).lookup? (Nat.pow 2 64 - 1) = none :=
  ⟨if_neg (by decide), if_neg (by decide)⟩

end LightBuffer

end ShaderWeave
