import AppLauncher.Proofs.Url.Path
import AppLauncher.Proofs.Url.Segments
import AppLauncher.Subsidy.Service

/-!
Where requests go. The segments of an endpoint stay apart behind the path of the service, so that different
names lead to different places. Exceptions are the ids that the path takes for something else: dots, which it
leaves out, breaks within a name, which it leaves out too, and what turns into a double dot by that.
-/
namespace AppLauncher

open Url

namespace Service

variable {service : Service} {segments others : List String}

/-- A backend on this machine. -/
def nearby : Service where
  base :=
    { scheme := "http"
      authority := some { host := .domain "localhost", port := some 8080 }
      path := [""] }

theorem ofText_nearby : ofText "http://localhost:8080" = .ok nearby := rfl

/-! ### Endpoints -/

/-- The path of an endpoint is that of the service with the segments behind it. -/
theorem endpoint_path (service : Service) (segments : List String) :
    (service.endpoint segments).path =
      segments.foldl (Path.push (Url.isSpecial service.base.scheme)) (service.endpoint []).path := by
  rw [endpoint, endpoint, Url.extend, Url.extend, List.append_nil, List.foldl_append]

theorem endpoint_eq (service : Service) (segments : List String) :
    service.endpoint segments =
      { service.endpoint [] with path := (service.endpoint segments).path } := rfl

/-- Every endpoint stands behind the name of the interface. -/
theorem exists_endpoint_nil (service : Service) :
    ∃ before, (service.endpoint []).path = before ++ ["api", "subsidies"] := by
  have api : ∀ special path,
      Path.push special path "api" = (if path = [""] then [] else path) ++ ["api"] := by
    intro special path
    cases special <;> rfl
  have subsidies : ∀ special path,
      Path.push special (path ++ ["api"]) "subsidies" = path ++ ["api", "subsidies"] := by
    intro special path
    have inside : path ++ ["api"] ≠ [""] := by
      intro single
      have last := congrArg List.getLast? single
      rw [List.getLast?_concat] at last
      exact absurd last (by decide)
    rw [Path.push_of_named (by decide) (by decide) inside, List.append_assoc]
    cases special <;> rfl
  rw [endpoint, Url.extend, List.append_nil]
  dsimp only
  rw [List.foldl_cons, List.foldl_cons, List.foldl_nil, api, subsidies]
  exact ⟨_, rfl⟩

theorem one_lt_length_endpoint_nil (service : Service) : 1 < (service.endpoint []).path.length := by
  obtain ⟨before, root⟩ := service.exists_endpoint_nil
  rw [root, List.length_append]
  exact Nat.lt_add_left before.length (by decide)

/-! ### Segments that hide no dots -/

theorem endpoint_path_of_plain (plain : Path.HidesNoDots segments) :
    (service.endpoint segments).path = (service.endpoint []).path ++
      (Path.named segments).map (Path.part (Url.isSpecial service.base.scheme)) := by
  rw [endpoint_path, Path.foldl_push plain service.one_lt_length_endpoint_nil]

/-- Endpoints are written alike if and only if their segments stand for the same. -/
theorem endpoint_text_eq_iff (service : Service) (plain : Path.HidesNoDots segments)
    (othersPlain : Path.HidesNoDots others) :
    (service.endpoint segments).text = (service.endpoint others).text ↔
      Path.named segments = Path.named others := by
  rw [endpoint_eq service segments, endpoint_eq service others, Url.text_eq_iff,
    endpoint_path_of_plain plain, endpoint_path_of_plain othersPlain, Path.chars_append, Path.chars_append]
  constructor
  · intro same
    have free : ∀ segments, ∀ part ∈ (Path.named segments).map
        (Path.part (Url.isSpecial service.base.scheme)), '/' ∉ part.toList := by
      intro segments part member
      obtain ⟨segment, -, rfl⟩ := List.mem_map.mp member
      exact Path.not_mem_part (.inl rfl) _ segment
    have parts := Path.chars_injective (free segments) (free others) (List.append_cancel_left same)
    exact List.map_injective_iff.mpr (fun _ _ => Path.part_injective) parts
  · intro same
    rw [same]

/-- Which segments share an endpoint, and how they are written in it: each one that is not left out is a
part of its own behind the path of the service, and the part is decoded to it. -/
theorem endpoint_eq_iff_named (plain : Path.HidesNoDots segments) (othersPlain : Path.HidesNoDots others) :
    (service.endpoint segments = service.endpoint others ↔ Path.named segments = Path.named others) ∧
    ((service.endpoint segments).text = (service.endpoint others).text ↔
      Path.named segments = Path.named others) ∧
    (service.endpoint segments).pathText.toList = (service.endpoint []).pathText.toList ++
      (Path.named segments).flatMap (fun segment =>
        '/' :: (Path.part (Url.isSpecial service.base.scheme) segment).toList) ∧
    ∀ segment ∈ Path.named segments,
      let part := (Path.part (Url.isSpecial service.base.scheme) segment).toList
      '/' ∉ part ∧ '?' ∉ part ∧ '#' ∉ part ∧ Percent.text? part = some segment := by
  have written := endpoint_text_eq_iff service plain othersPlain
  refine ⟨⟨fun same => written.mp (congrArg Url.text same), fun same => ?_⟩, written, ?_, ?_⟩
  · rw [endpoint_eq service segments, endpoint_eq service others, endpoint_path_of_plain plain,
      endpoint_path_of_plain othersPlain, same]
  · rw [Url.toList_pathText, Url.toList_pathText, endpoint_path_of_plain plain, Path.chars_append]
    exact congrArg _ (List.flatMap_map _ _ _)
  · intro segment _
    exact ⟨Path.not_mem_part (.inl rfl) _ segment, Path.not_mem_part (.inr (.inl rfl)) _ segment,
      Path.not_mem_part (.inr (.inr rfl)) _ segment, Path.text?_part _ segment⟩

/-- An id that is cut in two by a tab shares its endpoint with the id in one piece, and dots between the
segments make no difference. -/
theorem endpoint_broken_id : ofText "http://localhost:8080" = .ok nearby ∧
    Path.HidesNoDots ["a/b", "..", "4\t2"] ∧ Path.HidesNoDots ["a/b", "42"] ∧
    nearby.endpoint ["a/b", "..", "4\t2"] = nearby.endpoint ["a/b", "42"] := by
  have plain : Path.HidesNoDots ["a/b", "..", "4\t2"] := by decide
  have othersPlain : Path.HidesNoDots ["a/b", "42"] := by decide
  exact ⟨ofText_nearby, plain, othersPlain, (endpoint_eq_iff_named plain othersPlain).1.mpr (by decide)⟩

/-! ### Segments that step back -/

theorem isWithin_endpoint_iff (service : Service) (segments : List String) :
    (service.endpoint segments).IsWithin (service.endpoint []) ↔ Path.stepsBack segments = false := by
  obtain ⟨before, root⟩ := service.exists_endpoint_nil
  cases steps : Path.stepsBack segments with
  | false =>
    obtain ⟨rest, path⟩ := Path.foldl_push_of_onwards steps service.one_lt_length_endpoint_nil
    rw [← endpoint_path] at path
    exact iff_of_true (Url.isWithin_of_append path) rfl
  | true =>
    have whole : (service.endpoint []).path = (before ++ ["api"]) ++ ["subsidies"] := by
      rw [root, List.append_assoc]
      rfl
    have noDrive : Path.startsWithDrive "subsidies".toList = false := by decide
    obtain ⟨rest, path⟩ := Path.foldl_push_of_stepsBack steps
      (List.append_ne_nil_of_right_ne_nil before (List.cons_ne_nil "api" [])) noDrive
    rw [← whole, ← endpoint_path] at path
    exact iff_of_false (Url.not_isWithin whole path (by decide) (by decide) (by decide)) nofun

/-! ### A single id -/

/-- An id behind the path is left out, steps back, or is written as one part, which is read as the id unless
breaks were left out of it. -/
theorem endpoint_id_cases (service : Service) (id : String) :
    Path.IsDots id ∧ service.endpoint [id] = service.endpoint [] ∨
    Path.withoutBreaks id = ".." ∧ id ≠ ".." ∧
      ¬(service.endpoint [id]).IsWithin (service.endpoint []) ∨
    ¬Path.IsDots id ∧ ∃ part,
      (service.endpoint [id]).pathText = (service.endpoint []).pathText ++ "/" ++ part ∧
      '/' ∉ part.toList ∧ (Percent.text? part.toList = some id ↔ Path.withoutBreaks id = id) := by
  have inside : (service.endpoint []).path ≠ [""] := by
    intro single
    have long := service.one_lt_length_endpoint_nil
    rw [single] at long
    exact absurd long (by decide)
  have path := service.endpoint_path [id]
  rw [List.foldl_cons, List.foldl_nil] at path
  by_cases dots : Path.IsDots id
  · rw [Path.push_of_isDots dots] at path
    exact .inl ⟨dots, by rw [endpoint_eq service [id], path]⟩
  by_cases double : Path.withoutBreaks id = ".."
  · have steps : Path.stepsBack [id] = true := by
      rw [Path.stepsBack, if_neg dots, double, beq_self_eq_true]
    refine .inr (.inl ⟨double, fun same => dots (.inr same), fun within => ?_⟩)
    rw [isWithin_endpoint_iff, steps] at within
    cases within
  refine .inr (.inr ⟨dots, ?_⟩)
  by_cases single : Path.withoutBreaks id = "."
  · rw [Path.push_of_single dots single inside] at path
    refine ⟨"", Url.pathText_append_singleton path, List.not_mem_nil, iff_of_false ?_ ?_⟩
    · intro read
      have empty : "" = id := Option.some.inj read
      rw [← empty] at single
      exact absurd single (by decide)
    · exact fun same => dots (.inl (same.symm.trans single))
  · rw [Path.push_of_named dots (not_or_intro single double) inside] at path
    refine ⟨_, Url.pathText_append_singleton path, Path.not_mem_part (.inl rfl) _ _, ?_⟩
    rw [Path.text?_part, Option.some_inj]

/-- The path of an id goes on with one part that is read as the id if and only if the id is literal. -/
theorem exists_part_iff (service : Service) (id : String) :
    (∃ part, (service.endpoint [id]).pathText = (service.endpoint []).pathText ++ "/" ++ part ∧
      '/' ∉ part.toList ∧ Percent.text? part.toList = some id) ↔ Path.IsLiteral id := by
  rcases service.endpoint_id_cases id with
    ⟨dots, same⟩ | ⟨double, other, outside⟩ | ⟨plain, written, path, free, read⟩
  · refine iff_of_false ?_ fun literal => literal.1 dots
    rintro ⟨part, goesOn, -, -⟩
    rw [same] at goesOn
    exact Url.pathText_ne_append _ part goesOn
  · refine iff_of_false ?_ fun literal => other (literal.2.symm.trans double)
    rintro ⟨part, goesOn, -, -⟩
    exact outside (.inr ⟨part, goesOn⟩)
  · constructor
    · rintro ⟨part, goesOn, -, readAs⟩
      obtain rfl := (String.append_right_inj _).mp (goesOn.symm.trans path)
      exact ⟨plain, read.mp readAs⟩
    · intro literal
      exact ⟨written, path, free, read.mpr literal.2⟩

/-- Only an id that is left out leads to where all saved sets are. -/
theorem endpoint_id_eq_iff (service : Service) (id : String) :
    (service.endpoint [id]).pathText = (service.endpoint []).pathText ↔ Path.IsDots id := by
  rcases service.endpoint_id_cases id with
    ⟨dots, same⟩ | ⟨double, other, outside⟩ | ⟨plain, written, path, free, read⟩
  · exact iff_of_true (congrArg Url.pathText same) dots
  · refine iff_of_false (fun same => outside (.inl same)) ?_
    rintro (rfl | rfl)
    · exact absurd double (by decide)
    · exact other rfl
  · refine iff_of_false (fun same => ?_) plain
    rw [same] at path
    exact Url.pathText_ne_append _ written path

theorem endpoint_id_text_eq_iff (service : Service) {id other : String} (literal : Path.IsLiteral id)
    (otherLiteral : Path.IsLiteral other) :
    (service.endpoint [id]).text = (service.endpoint [other]).text ↔ id = other := by
  have hides : ∀ {id : String}, Path.IsLiteral id → Path.HidesNoDots [id] := by
    intro id literal segment member hidden
    rw [List.mem_singleton.mp member] at hidden ⊢
    rw [literal.2] at hidden
    exact hidden
  have named : ∀ {id : String}, Path.IsLiteral id → Path.named [id] = [id] := by
    intro id literal
    rw [Path.named_cons literal.1, literal.2]
    rfl
  rw [endpoint_text_eq_iff service (hides literal) (hides otherLiteral), named literal, named otherLiteral,
    List.singleton_inj]

end Service

namespace Operation

open Service (nearby ofText ofText_nearby)

variable {operation : Operation} {service : Service} {token : Option String} {request : Http.Request}

/-- An operation is a request, unless the token cannot stand in a header. -/
theorem request_cases (operation : Operation) (service : Service) (token : Option String) :
    Http.fitsHeader ("Bearer " ++ token.getD "") = true ∧
      operation.request service token = .ok
        { method := operation.method, url := service.endpoint operation.segments,
          authorization := "Bearer " ++ token.getD "", body := operation.body } ∨
    Http.fitsHeader ("Bearer " ++ token.getD "") = false ∧
      operation.request service token = .error (.http .badHeader) := by
  cases fits : Http.fitsHeader ("Bearer " ++ token.getD "") with
  | true => exact .inl ⟨rfl, if_pos fits⟩
  | false =>
    refine .inr ⟨rfl, if_neg ?_⟩
    rw [fits]
    exact Bool.false_ne_true

theorem request_eq (made : operation.request service token = .ok request) :
    request =
      { method := operation.method, url := service.endpoint operation.segments,
        authorization := "Bearer " ++ token.getD "", body := operation.body } := by
  rcases request_cases operation service token with ⟨-, known⟩ | ⟨-, unmade⟩
  · exact Except.ok.inj (made.symm.trans known)
  · rw [unmade] at made
    cases made

/-- A request can be made with every token that can be sent. -/
theorem exists_request (fits : Http.fitsHeader ("Bearer " ++ token.getD "") = true) :
    ∃ request, operation.request service token = .ok request := by
  rcases request_cases operation service token with ⟨_, made⟩ | ⟨unfit, _⟩
  · exact ⟨_, made⟩
  · rw [fits] at unfit
    cases unfit

/-- Only the id of a delete stands alone behind the path, so only a delete may step back. -/
theorem stepsBack_segments (operation : Operation) : Path.stepsBack operation.segments = false ↔
    ∀ id, operation = .delete id → id = ".." ∨ Path.withoutBreaks id ≠ ".." := by
  cases operation with
  | delete id =>
    change Path.stepsBack [id] = false ↔ _
    rw [Path.stepsBack]
    split
    next dots =>
      refine iff_of_true rfl fun other same => ?_
      cases same
      rcases dots with rfl | rfl
      · exact .inr (by decide)
      · exact .inl rfl
    next plain =>
      rw [beq_eq_false_iff_ne]
      constructor
      · intro onwards other same
        cases same
        exact .inr onwards
      · intro allowed
        exact (allowed id rfl).resolve_left fun same => plain (.inr same)
  | _ => exact iff_of_true rfl fun id same => by cases same

/-- What an endpoint says besides its path is what the address of the service says, and its path is within
that of the service unless its segments step back. Of all operations only a delete may do so, with an id that
turns into a double dot when its tabs and line breaks are left out. -/
theorem request_isWithin_iff (service : Service) (segments : List String) :
    ((service.endpoint segments).scheme = service.base.scheme ∧
      (service.endpoint segments).authority = service.base.authority ∧
      (service.endpoint segments).query = service.base.query ∧
      (service.endpoint segments).fragment = service.base.fragment) ∧
    ((service.endpoint segments).IsWithin (service.endpoint []) ↔ Path.stepsBack segments = false) ∧
    ∀ (operation : Operation) (token : Option String) (request : Http.Request),
      operation.request service token = .ok request →
        (request.url.IsWithin (service.endpoint []) ↔
          ∀ id, operation = .delete id → id = ".." ∨ Path.withoutBreaks id ≠ "..") := by
  refine ⟨⟨rfl, rfl, rfl, rfl⟩, service.isWithin_endpoint_iff segments, ?_⟩
  intro operation token request made
  have url : request.url = service.endpoint operation.segments := congrArg _ (request_eq made)
  rw [url, Service.isWithin_endpoint_iff]
  exact stepsBack_segments operation

/-- Encoded dots and separators do not step back. -/
theorem delete_encoded_isWithin : ofText "http://localhost:8080" = .ok nearby ∧
    ∃ request, (delete "%2e%2e/..\\?#").request nearby (some "t") = .ok request ∧
      request.url.pathText = "/api/subsidies/%252e%252e%2F..%5C%3F%23" ∧
      request.url.IsWithin (nearby.endpoint []) := by
  refine ⟨ofText_nearby, _, rfl, by decide, ?_⟩
  refine ((request_isWithin_iff nearby []).2.2 (delete "%2e%2e/..\\?#") (some "t") _ rfl).mpr ?_
  intro id same
  cases same
  exact .inr (by decide)

/-- A tab between two dots hides that they step back, and the delete leaves the path of the service. -/
theorem delete_hidden_dots_leaves : ofText "http://localhost:8080" = .ok nearby ∧
    (nearby.endpoint []).pathText = "/api/subsidies" ∧
    ∃ request, (delete ".\t.").request nearby (some "t") = .ok request ∧
      request.url.pathText = "/api/" ∧ ¬request.url.IsWithin (nearby.endpoint []) := by
  refine ⟨ofText_nearby, by decide, _, rfl, by decide, fun within => ?_⟩
  have onwards := (nearby.isWithin_endpoint_iff [".\t."]).mp within
  exact absurd onwards (by decide)

/-- What a delete is sent to. Its path goes on after that of the service with exactly one part that is read
as the id if and only if the id is literal: no dot, no double dot, and free of tabs and line breaks. Only the
dots lead to where all saved sets are, and literal ids that differ are never sent to the same place. -/
theorem delete_names_iff (service : Service) (id : String) {token : Option String}
    {request : Http.Request} (made : (delete id).request service token = .ok request) :
    request.method = .delete ∧
    ((∃ part, request.url.pathText = (service.endpoint []).pathText ++ "/" ++ part ∧
      '/' ∉ part.toList ∧ Percent.text? part.toList = some id) ↔ Path.IsLiteral id) ∧
    (request.url.pathText = (service.endpoint []).pathText ↔ Path.IsDots id) ∧
    ∀ (other : String) (otherToken : Option String) (otherRequest : Http.Request),
      (delete other).request service otherToken = .ok otherRequest →
        Path.IsLiteral id → Path.IsLiteral other →
          (request.url.text = otherRequest.url.text ↔ id = other) := by
  have url : request.url = service.endpoint [id] := congrArg _ (request_eq made)
  refine ⟨congrArg _ (request_eq made), ?_, ?_, ?_⟩
  · rw [url]
    exact service.exists_part_iff id
  · rw [url]
    exact service.endpoint_id_eq_iff id
  · intro other otherToken otherRequest otherMade literal otherLiteral
    have otherUrl : otherRequest.url = service.endpoint [other] := congrArg _ (request_eq otherMade)
    rw [url, otherUrl]
    exact service.endpoint_id_text_eq_iff literal otherLiteral

theorem delete_slash_named : ofText "http://localhost:8080" = .ok nearby ∧
    ∃ request, (delete "a/b c").request nearby (some "t") = .ok request ∧
      ∃ part, request.url.pathText = (nearby.endpoint []).pathText ++ "/" ++ part ∧
        '/' ∉ part.toList ∧ Percent.text? part.toList = some "a/b c" := by
  obtain ⟨request, made⟩ : ∃ request, (delete "a/b c").request nearby (some "t") = .ok request :=
    ⟨_, rfl⟩
  exact ⟨ofText_nearby, request, made, (delete_names_iff nearby "a/b c" made).2.1.mpr (by decide)⟩

/-- A delete of the id that is a dot is sent to where all saved sets are, and an id with a tab is not told
from the one without it. -/
theorem delete_dot_names_all : ofText "http://localhost:8080" = .ok nearby ∧
    (∃ request, (delete ".").request nearby (some "t") = .ok request ∧ request.method = .delete ∧
      request.url = nearby.endpoint [] ∧
      ¬∃ part, request.url.pathText = (nearby.endpoint []).pathText ++ "/" ++ part) ∧
    ∃ request otherRequest, (delete "4\t2").request nearby (some "t") = .ok request ∧
      (delete "42").request nearby (some "t") = .ok otherRequest ∧ request.url = otherRequest.url := by
  refine ⟨ofText_nearby, ⟨_, rfl, rfl, by decide, ?_⟩, _, _, rfl, rfl, by decide⟩
  rintro ⟨part, goesOn⟩
  exact Url.pathText_ne_append _ part goesOn

end Operation

end AppLauncher
