import NestedQuery.Json.Reader
import NestedQuery.Proofs.Json.Grammar
import NestedQuery.Proofs.Json.Settled

/-!
# How deeply a text nests

The reader keeps no container that is nested too deeply, so neither does any value that
is taken from what it read.  A value is nested no deeper than the source it stands for:
a repeated key only takes a member away.
-/

namespace NestedQuery

namespace Json

theorem itemsDepth_le_iff {items : List Json} {bound : Nat} :
    itemsDepth items ≤ bound ↔ ∀ item ∈ items, item.depth ≤ bound := by
  induction items with
  | nil => simp [itemsDepth]
  | cons item items ih => rw [itemsDepth, Nat.max_le, ih, List.forall_mem_cons]

theorem membersDepth_le_iff {members : List (String × Json)} {bound : Nat} :
    membersDepth members ≤ bound ↔ ∀ member ∈ members, member.2.depth ≤ bound := by
  induction members with
  | nil => simp [membersDepth]
  | cons member members ih => rw [membersDepth, Nat.max_le, ih, List.forall_mem_cons]

namespace Source

mutual

/-- How deeply containers are nested in a source. -/
def depth : Source → Nat
  | .array items => itemsDepth items + 1
  | .object members => membersDepth members + 1
  | _ => 0

def itemsDepth : List Source → Nat
  | [] => 0
  | item :: items => max item.depth (itemsDepth items)

def membersDepth : List (Option String × Source) → Nat
  | [] => 0
  | (_, value) :: members => max value.depth (membersDepth members)

end

theorem itemsDepth_le_iff {items : List Source} {bound : Nat} :
    itemsDepth items ≤ bound ↔ ∀ item ∈ items, item.depth ≤ bound := by
  induction items with
  | nil => simp [itemsDepth]
  | cons item items ih => rw [itemsDepth, Nat.max_le, ih, List.forall_mem_cons]

theorem membersDepth_le_iff {members : List (Option String × Source)} {bound : Nat} :
    membersDepth members ≤ bound ↔ ∀ member ∈ members, member.2.depth ≤ bound := by
  induction members with
  | nil => simp [membersDepth]
  | cons member members ih => rw [membersDepth, Nat.max_le, ih, List.forall_mem_cons]

mutual

/-- A value is nested no deeper than the source it stands for. -/
theorem depth_le_of_json? : ∀ {source : Source} {value : Json},
    source.json? = some value → value.depth ≤ source.depth
  | .null, _, rfl => Nat.le_refl 0
  | .bool _, _, rfl => Nat.le_refl 0
  | .number _, _, rfl => Nat.le_refl 0
  | .string _, _, rfl => Nat.le_refl 0
  | .array items, value, hvalue => by
      obtain ⟨values, hvalues, rfl⟩ := Option.map_eq_some_iff.mp hvalue
      exact Nat.succ_le_succ (itemsDepth_le_of_items? hvalues)
  | .object members, value, hvalue => by
      obtain ⟨values, hvalues, rfl⟩ := Option.map_eq_some_iff.mp hvalue
      have hdepth := Json.membersDepth_le_iff.mp (membersDepth_le_of_members? hvalues)
      exact Nat.succ_le_succ
        (Json.membersDepth_le_iff.mpr fun member hmem => hdepth member (mem_of_mem_ofList hmem))

theorem itemsDepth_le_of_items? : ∀ {items : List Source} {values : List Json},
    items? items = some values → Json.itemsDepth values ≤ itemsDepth items
  | [], _, rfl => Nat.le_refl 0
  | item :: items, values, hvalues => by
      simp only [items?, Option.bind_eq_bind, Option.bind_eq_some_iff] at hvalues
      obtain ⟨head, hhead, tail, htail, hvalues⟩ := hvalues
      cases hvalues
      have hfirst := depth_le_of_json? hhead
      have hrest := itemsDepth_le_of_items? htail
      rw [Json.itemsDepth, itemsDepth]
      omega

theorem membersDepth_le_of_members? : ∀ {members : List (Option String × Source)}
    {values : List (String × Json)},
    members? members = some values → Json.membersDepth values ≤ membersDepth members
  | [], _, rfl => Nat.le_refl 0
  | (some key, source) :: members, values, hvalues => by
      simp only [members?, Option.bind_eq_bind, Option.bind_eq_some_iff] at hvalues
      obtain ⟨head, hhead, tail, htail, hvalues⟩ := hvalues
      cases hvalues
      have hfirst := depth_le_of_json? hhead
      have hrest := membersDepth_le_of_members? htail
      rw [Json.membersDepth, membersDepth]
      omega

end

/-- What may stand inside some containers. -/
def FitsAt (depth : Nat) (source : Source) : Prop := depth + source.depth ≤ depthLimit

theorem fitsAt_array {depth : Nat} {items : List Source} (hdepth : depth < depthLimit)
    (hitems : ∀ item ∈ items, item.FitsAt (depth + 1)) : FitsAt depth (.array items) := by
  have hbound : itemsDepth items ≤ depthLimit - (depth + 1) :=
    itemsDepth_le_iff.mpr fun item hmem => Nat.le_sub_of_add_le' (hitems item hmem)
  rw [FitsAt, Source.depth]
  omega

theorem fitsAt_object {depth : Nat} {members : List (Option String × Source)}
    (hdepth : depth < depthLimit) (hmembers : ∀ member ∈ members, member.2.FitsAt (depth + 1)) :
    FitsAt depth (.object members) := by
  have hbound : membersDepth members ≤ depthLimit - (depth + 1) :=
    membersDepth_le_iff.mpr fun member hmem => Nat.le_sub_of_add_le' (hmembers member hmem)
  rw [FitsAt, Source.depth]
  omega

theorem fitsAt_settleAt {depth : Nat} {container : Source} (hdepth : depth ≤ depthLimit)
    (hfits : depth < depthLimit → container.FitsAt depth) :
    (settleAt depth container).FitsAt depth := by
  rw [settleAt]
  split
  · rename_i hlt
    exact hfits hlt
  · split
    · exact hdepth
    · exact hdepth

end Source

/-- What the readers make of texts inside some containers fits there. -/
structure ReadingsFit (fuel depth : Nat) : Prop where
  value : ∀ text, (readValue fuel depth text).1.FitsAt depth
  items : ∀ text, ∀ item ∈ (readItems fuel depth text).1, item.FitsAt depth
  members : ∀ text, ∀ member ∈ (readMembers fuel depth text).1, member.2.FitsAt depth

section Step

variable {fuel depth : Nat} (hdepth : depth ≤ depthLimit)

include hdepth

theorem fitsAt_readValue_succ (hinner : depth < depthLimit → ReadingsFit fuel (depth + 1))
    (text : List Char) : (readValue (fuel + 1) depth text).1.FitsAt depth := by
  rw [readValue]
  split
  iterate 3
    · exact hdepth
  · split
    · exact hdepth
    · rename_i pieces rest hscan
      cases pieces? pieces <;> exact hdepth
  · split
    · exact Source.fitsAt_settleAt hdepth fun hlt => hlt
    · exact Source.fitsAt_settleAt hdepth fun hlt =>
        Source.fitsAt_array hlt ((hinner hlt).items _)
  · split
    · exact Source.fitsAt_settleAt hdepth fun hlt => hlt
    · exact Source.fitsAt_settleAt hdepth fun hlt =>
        Source.fitsAt_object hlt ((hinner hlt).members _)
  · split
    · exact hdepth
    · rename_i literal rest hscan
      cases literal.number? <;> exact hdepth

theorem fitsAt_of_mem_readItems_succ (hfits : ReadingsFit fuel depth) (text : List Char) :
    ∀ item ∈ (readItems (fuel + 1) depth text).1, item.FitsAt depth := by
  have hvalue := hfits.value text
  rw [readItems]
  split
  · rename_i item hread
    rw [hread] at hvalue
    simpa using hvalue
  · rename_i item rest hread
    rw [hread] at hvalue
    split
    · simpa using hvalue
    · rename_i more hskip
      exact List.forall_mem_cons.mpr ⟨hvalue, hfits.items more⟩
    · have hbroken : Source.FitsAt depth .broken := hdepth
      simpa using ⟨hvalue, hbroken⟩

theorem fitsAt_of_mem_readMembers_succ (hfits : ReadingsFit fuel depth) (text : List Char) :
    ∀ member ∈ (readMembers (fuel + 1) depth text).1, member.2.FitsAt depth := by
  have hbroken : Source.FitsAt depth .broken := hdepth
  rw [readMembers]
  split
  · split
    · simpa using hbroken
    · rename_i pieces rest hscan
      split
      · rename_i element hcolon
        have hvalue := hfits.value element
        split
        · rename_i value hread
          rw [hread] at hvalue
          simpa using hvalue
        · rename_i value stop hread
          rw [hread] at hvalue
          split
          · simpa using hvalue
          · rename_i more hskip
            exact List.forall_mem_cons.mpr ⟨hvalue, hfits.members more⟩
          · simpa using ⟨hvalue, hbroken⟩
      · simpa using hbroken
  · simpa using hbroken

end Step

theorem readingsFit (fuel : Nat) {depth : Nat} (hdepth : depth ≤ depthLimit) :
    ReadingsFit fuel depth := by
  induction fuel generalizing depth with
  | zero =>
      have hbroken : Source.FitsAt depth .broken := hdepth
      refine ⟨fun _ => hbroken, fun _ => ?_, fun _ => ?_⟩
      · simpa [readItems] using hbroken
      · simpa [readMembers] using hbroken
  | succ fuel ih =>
      exact ⟨fitsAt_readValue_succ hdepth ih, fitsAt_of_mem_readItems_succ hdepth (ih hdepth),
        fitsAt_of_mem_readMembers_succ hdepth (ih hdepth)⟩

/-- Nothing that is read is nested too deeply. -/
theorem depth_read_le (text : String) : (read text).depth ≤ depthLimit := by
  have hread := (readingsFit (readingFuel text.toList) (Nat.zero_le depthLimit)).value
    text.toList
  rw [Source.FitsAt, Nat.zero_add] at hread
  rw [read]
  split
  · rename_i source rest hsource
    rw [hsource] at hread
    split
    · exact hread
    · exact Nat.zero_le _
  · rename_i source hsource
    rw [hsource] at hread
    exact hread

end Json

end NestedQuery
