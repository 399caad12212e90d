import AppLauncher.Proofs.Json.Record
import AppLauncher.Subsidy.Criteria

/-!
Nothing of a set of criteria gets lost when it is written down: two sets with the same JSON are the
same set.
-/
namespace AppLauncher

theorem Criterion.toJson_injective : Function.Injective Criterion.toJson := by
  intro a b same
  have field := Json.lookup_of_record_eq (by simp) (by simp) same
  have id : a.id = b.id := by simpa [Json.int] using field "id"
  have text : a.text = b.text := by simpa [List.lookup_cons] using field "text"
  cases a
  cases b
  congr

theorem Criterion.listToJson_injective : Function.Injective Criterion.listToJson := by
  intro first second same
  exact Criterion.toJson_injective.list_map (Json.array.inj same)

theorem CriteriaSet.toJson_injective : Function.Injective CriteriaSet.toJson := by
  intro a b same
  have field := Json.lookup_of_record_eq (by simp) (by simp) same
  have strings := Option.map_injective fun _ _ => Json.string.inj
  have bools := Option.map_injective fun _ _ => Json.bool.inj
  have criteria : a.criteria = b.criteria :=
    Criterion.listToJson_injective (Option.some.inj (field "criteria"))
  have summary : a.summary = b.summary := strings (field "summary")
  have savedId : a.savedId = b.savedId := strings (field "savedId")
  have timestamp : a.timestamp = b.timestamp := strings (field "timestamp")
  have name : a.name = b.name := strings (field "name")
  have isSelection : a.isSelection = b.isSelection := bools (field "isSelection")
  cases a
  cases b
  congr

end AppLauncher
