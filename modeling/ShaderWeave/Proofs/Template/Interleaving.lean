import ShaderWeave.Template
import ShaderWeave.Proofs.Graph.Walks
import ShaderWeave.Proofs.Lighting.Merging

/-! # Interleaved contributions

The code of a slot is what was contributed to it, in order, whatever went to other slots in between. Slots are listed in
the order of their first contributions, and a slot keeps its place in the list. So a template gets the same texts from
the same contributions to each slot, however they are interleaved.
-/

namespace ShaderWeave

namespace SlotBuffer

/-- Codes with the slots that they are for, in the order in which they are contributed. -/
abbrev Calls := List (String × String)

def contribute (slots : SlotBuffer) (calls : Calls) : SlotBuffer :=
  calls.foldl (fun slots call => slots.add call.1 call.2) slots

/-- The codes for one slot. -/
def codesFor (key : String) (calls : Calls) : List String := (calls.filter (·.1 == key)).map (·.2)

/-- Where the entry of a slot stands. An index of the slots has to change for new slots only. -/
def place? (slots : SlotBuffer) (key : String) : Option Nat := slots.entries.findIdx? (·.key == key)

variable {slots : SlotBuffer}

/-! ## Places -/

/-- What is read at the place of a slot is its code. -/
theorem get?_eq_place? (slots : SlotBuffer) (key : String) :
    slots.get? key = ((slots.place? key).bind fun place => slots.entries[place]?).map (·.code) := by
  rw [get?, place?, List.find?_eq_bind_findIdx?_getElem?]

/-- A contribution changes the entry at the place of its slot, or opens one behind the others. -/
theorem entries_add (slots : SlotBuffer) (key code : String) :
    (slots.add key code).entries =
      match slots.place? key with
      | some place => slots.entries.modify place fun entry => { entry with code := entry.code ++ code }
      | none => slots.entries ++ [⟨key, code⟩] := by
  simp only [add, place?]
  induction slots.entries with
  | nil => rfl
  | cons entry rest ih =>
    rw [join, List.findIdx?_cons]
    by_cases here : entry.key = key
    · simp [here]
    · rw [if_neg here, ih]
      cases rest.findIdx? (·.key == key) <;> simp [here]

theorem place?_eq_findIdx? (slots : SlotBuffer) (key : String) :
    slots.place? key = (slots.entries.map (·.key)).findIdx? (· == key) := by
  rw [place?, List.findIdx?_map]
  rfl

/-- Only a new slot gets a place. -/
theorem place?_add (slots : SlotBuffer) (key code other : String) :
    (slots.add key code).place? other =
      if other = key then some ((slots.place? key).getD slots.size) else slots.place? other := by
  simp only [place?_eq_findIdx?, keys_add]
  split
  · next known =>
    split
    · next same =>
      have found : ((slots.entries.map (·.key)).findIdx? (· == key)).isSome :=
        List.findIdx?_isSome.trans (List.any_eq_true.2 ⟨key, known, beq_self_eq_true key⟩)
      obtain ⟨place, found⟩ := Option.isSome_iff_exists.1 found
      rw [same, found, Option.getD_some]
    · rfl
  · next new =>
    have absent : (slots.entries.map (·.key)).findIdx? (· == key) = none :=
      List.findIdx?_eq_none_iff.2 fun other member => beq_false_of_ne (ne_of_mem_of_not_mem member new)
    rw [List.findIdx?_append]
    split
    · next same => simp [same, absent, size]
    · next apart => simp [Ne.symm apart]

/-- A slot keeps its place. -/
theorem place?_contribute {key : String} {place : Nat} (placed : slots.place? key = some place) (calls : Calls) :
    (slots.contribute calls).place? key = some place := by
  induction calls generalizing slots with
  | nil => exact placed
  | cons call rest ih =>
    refine ih ?_
    rw [place?_add]
    split
    · next same => rw [← same, placed, Option.getD_some]
    · exact placed

/-! ## Codes -/

theorem contribute_append (slots : SlotBuffer) (earlier later : Calls) :
    slots.contribute (earlier ++ later) = (slots.contribute earlier).contribute later :=
  List.foldl_append

theorem codesFor_cons (key : String) (call : String × String) (rest : Calls) :
    codesFor key (call :: rest) = if call.1 = key then call.2 :: codesFor key rest else codesFor key rest := by
  by_cases same : call.1 = key <;> simp [codesFor, same]

/-- A slot is contributed to if there is a code for it. -/
theorem codesFor_eq_nil_iff {key : String} {calls : Calls} : codesFor key calls = [] ↔ key ∉ calls.map (·.1) := by
  simp [codesFor, List.filter_eq_nil_iff]
  grind

/-- Contributions are appended to what their slot has, and leave the slots without any alone. -/
theorem get?_contribute (slots : SlotBuffer) (calls : Calls) (key : String) :
    (slots.contribute calls).get? key =
      if key ∈ calls.map (·.1) then some ((slots.get? key).getD "" ++ String.join (codesFor key calls))
      else slots.get? key := by
  induction calls generalizing slots with
  | nil => rfl
  | cons call rest ih =>
    obtain ⟨target, code⟩ := call
    have first := get?_add slots target code key
    refine (ih _).trans ?_
    simp only [List.map_cons, List.mem_cons]
    by_cases here : key = target
    · subst here
      rw [if_pos rfl] at first
      simp only [first, codesFor_cons, true_or, if_true, Option.getD_some, String.join_cons, ← String.append_assoc]
      split
      · rfl
      · next last => rw [codesFor_eq_nil_iff.2 last, String.join_nil, String.append_empty]
    · rw [if_neg here] at first
      simp only [first, codesFor_cons, Ne.symm here, here, if_false, false_or]

theorem get?_contribute_empty (calls : Calls) (key : String) :
    (empty.contribute calls).get? key =
      if key ∈ calls.map (·.1) then some (String.join (codesFor key calls)) else none := by
  have joined := get?_contribute empty calls key
  have absent : empty.get? key = none := rfl
  rwa [absent, Option.getD_none, String.empty_append] at joined

theorem keys_contribute (calls : Calls) :
    (empty.contribute calls).entries.map (·.key) = (calls.map (·.1)).eraseDups := by
  induction calls using List.reverseRecOn with
  | nil => rfl
  | append_singleton calls call ih =>
    have last : (empty.contribute (calls ++ [call])).entries.map (·.key) =
        ((empty.contribute calls).add call.1 call.2).entries.map (·.key) :=
      congrArg (fun slots => slots.entries.map (·.key)) (contribute_append empty calls [call])
    rw [last, keys_add, ih, List.map_append, List.map_singleton, List.eraseDups_append]
    by_cases known : call.1 ∈ calls.map (·.1)
    · have none : [call.1].removeAll (calls.map (·.1)) = [] := by simpa [List.removeAll] using known
      rw [if_pos (List.mem_eraseDups.2 known), none, List.eraseDups_nil, List.append_nil]
    · have one : [call.1].removeAll (calls.map (·.1)) = [call.1] := by simpa [List.removeAll] using known
      rw [if_neg (mt List.mem_eraseDups.1 known), one]
      simp [List.eraseDups_cons]

theorem fragmentCount_contribute (slots : SlotBuffer) (calls : Calls) :
    (slots.contribute calls).fragmentCount = slots.fragmentCount + calls.length := by
  induction calls generalizing slots with
  | nil => rfl
  | cons call rest ih =>
    refine (ih _).trans ?_
    rw [List.length_cons, Nat.add_comm rest.length, ← Nat.add_assoc]
    rfl

end SlotBuffer

/-- A template asks slots for nothing but their codes. -/
theorem Template.resolve_congr {slots others : SlotBuffer} (template : Template) (codes : slots.get? = others.get?) :
    template.resolve slots = template.resolve others := by
  rw [Template.resolve, Template.resolve, Marker.resolve, Marker.resolve, Marker.resolve, Marker.resolve, codes]

namespace SlotBuffer

/-- From a new buffer, every slot gets its codes joined in order. Slots are listed once, by their first contributions,
and the code of a slot is found at the place that it got first. Contributions that are the same for each slot, however
they are interleaved, give the same texts to every template. -/
theorem contributions_merge (calls : Calls) :
    let slots := empty.contribute calls
    (∀ key, slots.get? key = if key ∈ calls.map (·.1) then some (String.join (codesFor key calls)) else none) ∧
    FirstVisits (calls.map (·.1)) (slots.entries.map (·.key)) ∧
    (∀ entry ∈ slots.entries, entry.code = String.join (codesFor entry.key calls)) ∧
    slots.fragmentCount = calls.length ∧
    (∀ earlier later, calls = earlier ++ later → ∀ key place, (empty.contribute earlier).place? key = some place →
      slots.place? key = some place ∧ slots.get? key = slots.entries[place]?.map (·.code)) ∧
    ∀ others, (∀ key, codesFor key others = codesFor key calls) →
      ∀ template : Template, template.resolve (empty.contribute others) = template.resolve slots := by
  intro slots
  have visits : FirstVisits (calls.map (·.1)) (slots.entries.map (·.key)) := by
    rw [keys_contribute]
    exact firstVisits_eraseDups _
  refine ⟨get?_contribute_empty calls, visits, ?_, ?_, ?_, ?_⟩
  · intro entry member
    have known : entry.key ∈ calls.map (·.1) := (visits.mem_iff _).1 (List.mem_map_of_mem member)
    have read : slots.get? entry.key = some entry.code := Distinct.get?_of_mem visits.nodup member
    rw [get?_contribute_empty, if_pos known] at read
    exact (Option.some.inj read).symm
  · exact (fragmentCount_contribute empty calls).trans (Nat.zero_add _)
  · intro earlier later split key place placed
    have kept := place?_contribute placed later
    rw [← contribute_append, ← split] at kept
    exact ⟨kept, by rw [get?_eq_place?, kept, Option.bind_some]⟩
  · intro others same template
    refine template.resolve_congr (funext fun key => ?_)
    have asked : key ∈ others.map (·.1) ↔ key ∈ calls.map (·.1) := by
      rw [← not_iff_not, ← codesFor_eq_nil_iff, ← codesFor_eq_nil_iff, same]
    rw [get?_contribute_empty, get?_contribute_empty, same]
    simp only [asked]

/-- Code without a name, empty code and code for two slots in turn. The other order has the slots listed differently,
and gives the same texts. -/
theorem merged_in_turn :
    let calls : Calls := [("a", "x"), ("", "n"), ("b", ""), ("a", "y")]
    let others : Calls := [("b", ""), ("a", "x"), ("a", "y"), ("", "n")]
    let template : Template := ⟨"pair", "#pragma SLOT b\n#pragma SLOT a\n", "v = #pragma SLOT a ;"⟩
    (∀ key, codesFor key others = codesFor key calls) ∧
      (empty.contribute others).entries ≠ (empty.contribute calls).entries ∧
      (empty.contribute calls).get? "a" = some "xy" ∧ (empty.contribute calls).get? "b" = some "" ∧
      (empty.contribute calls).get? "c" = none ∧ (empty.contribute calls).place? "b" = some 2 ∧
      template.resolve (empty.contribute others) = template.resolve (empty.contribute calls) := by
  intro calls others template
  have same : ∀ key, codesFor key others = codesFor key calls := by
    intro key
    simp only [calls, others, codesFor_cons]
    by_cases first : "a" = key
    · subst first
      rfl
    · by_cases second : "b" = key
      · subst second
        rfl
      · simp [first, second]
  obtain ⟨codes, -, -, -, places, texts⟩ := contributions_merge calls
  obtain ⟨place, -⟩ := places (calls.take 3) (calls.drop 3) rfl "b" 2 (by decide)
  exact ⟨same, by decide, (codes "a").trans (by decide), (codes "b").trans (by decide), (codes "c").trans (by decide),
    place, texts others same template⟩

end SlotBuffer

end ShaderWeave
