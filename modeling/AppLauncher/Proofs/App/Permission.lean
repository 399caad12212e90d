import AppLauncher.App.Registry

/-!
Permissions. Apps are denied by default. All that counts of a user is whether an object says that the role is that of
an administrator, and whether the path of an app leads to the literal true. A path leads through objects only, so that
a user of any other shape, at any depth, is granted nothing.
-/
namespace AppLauncher

namespace Json

/-- A path leads from a value to another one, through the fields of objects and through nothing else. -/
inductive Leads : Json → List String → Json → Prop
  | here (value : Json) : Leads value [] value
  | inside {fields : List (String × Json)} {name : String} {inner reached : Json} {path : List String}
    (named : fields.lookup name = some inner) (onwards : Leads inner path reached) :
    Leads (.object fields) (name :: path) reached

variable {value inner : Json}

theorem field?_eq_some_iff {name : String} :
    value.field? name = some inner ↔ ∃ fields, value = .object fields ∧ fields.lookup name = some inner := by
  cases value with
  | object fields =>
    constructor
    · exact fun found => ⟨fields, rfl, found⟩
    · rintro ⟨_, ⟨⟩, found⟩
      exact found
  | _ =>
    constructor
    · exact nofun
    · rintro ⟨_, ⟨⟩, _⟩

theorem bool?_eq_some_iff {truth : Bool} : value.bool? = some truth ↔ value = .bool truth := by
  cases value with
  | bool => simp [bool?]
  | _ => simp [bool?]

theorem text?_eq_some_iff {text : String} : value.text? = some text ↔ value = .string text := by
  cases value with
  | string => simp [text?]
  | _ => simp [text?]

/-- Whether an object says that somebody is an administrator. -/
def TellsAdmin (value : Json) : Prop :=
  ∃ fields, value = .object fields ∧ fields.lookup "role" = some (.string "admin")

/-- Whether a permission names an app: its path leads to the literal true. -/
def Permits (value : Json) (name : String) : Prop :=
  value.Leads ["permissions", "app_launcher", name] (.bool true)

end Json

namespace User

variable {value reached : Json} {path : List String}

theorem reach?_eq_some_iff : reach? path value = some reached ↔ value.Leads path reached := by
  induction path generalizing value with
  | nil =>
    constructor
    · rintro ⟨⟩
      exact .here _
    · rintro ⟨⟩
      rfl
  | cons name path ih =>
    rw [reach?, Option.bind_eq_some_iff]
    constructor
    · rintro ⟨inner, field, onwards⟩
      obtain ⟨fields, rfl, named⟩ := Json.field?_eq_some_iff.mp field
      exact .inside named (ih.mp onwards)
    · intro leads
      cases leads with
      | inside named onwards => exact ⟨_, named, ih.mpr onwards⟩

/-- A path in two parts is followed one part after the other. -/
theorem reach?_append (path more : List String) (value : Json) :
    reach? (path ++ more) value = (reach? path value).bind (reach? more) := by
  induction path generalizing value with
  | nil => rfl
  | cons name path ih =>
    rw [List.cons_append, reach?, reach?, Option.bind_assoc]
    exact Option.bind_congr fun inner _ => ih inner

theorem flag_eq_true_iff : (⟨value⟩ : User).flag path = true ↔ value.Leads path (.bool true) := by
  rw [flag, ← reach?_eq_some_iff]
  cases reach? path value with
  | none => simp
  | some found =>
    rw [Option.bind_some, Option.some_inj, ← Json.bool?_eq_some_iff]
    cases found.bool? with
    | none => simp
    | some truth => simp

theorem flag_append_of_leads (leads : value.Leads path reached) (more : List String) :
    (⟨value⟩ : User).flag (path ++ more) = (⟨reached⟩ : User).flag more := by
  rw [flag, reach?_append, reach?_eq_some_iff.mpr leads, Option.bind_some]
  rfl

theorem flag_append_of_lost (lost : ∀ reached, ¬value.Leads path reached) (more : List String) :
    (⟨value⟩ : User).flag (path ++ more) = false := by
  have nowhere : reach? path value = none := by
    apply Option.eq_none_iff_forall_ne_some.mpr
    intro reached found
    exact lost reached (reach?_eq_some_iff.mp found)
  rw [flag, reach?_append, nowhere]
  rfl

theorem isAdmin_eq_true_iff : (⟨value⟩ : User).isAdmin = true ↔ value.TellsAdmin := by
  rw [isAdmin, beq_iff_eq, role?, Option.bind_eq_some_iff]
  constructor
  · rintro ⟨inner, field, text⟩
    obtain ⟨fields, object, named⟩ := Json.field?_eq_some_iff.mp field
    rw [Json.text?_eq_some_iff.mp text] at named
    exact ⟨fields, object, named⟩
  · intro admin
    exact ⟨.string "admin", Json.field?_eq_some_iff.mpr admin, rfl⟩

end User

theorem Permission.allows_granted_iff {name : String} {value : Json} :
    (granted name).allows ⟨value⟩ = true ↔ value.TellsAdmin ∨ value.Permits name := by
  rw [allows, Bool.or_eq_true, User.isAdmin_eq_true_iff, User.flag_eq_true_iff]
  rfl

namespace App

/-- Of the three apps a user may open the first one always, and each of the others if and only if the user is told to
be an administrator or a permission names it, whatever value the user is. Nothing else of the user counts. A flag is
looked up from where the first part of its path leads, and is not set if that leads nowhere. -/
theorem permitted_by_facts (value : Json) :
    all.map (·.name) = ["Chat", "Versimpelaar", "Subsidies"] ∧
    (permitted ⟨value⟩).Sublist all ∧
    (∀ app ∈ all, app ∈ permitted ⟨value⟩ ↔
      app.name = "Chat" ∨
      app.name = "Versimpelaar" ∧ (value.TellsAdmin ∨ value.Permits "versimpelaar") ∨
      app.name = "Subsidies" ∧ (value.TellsAdmin ∨ value.Permits "subsidies")) ∧
    (∀ other : Json, (other.TellsAdmin ↔ value.TellsAdmin) →
      (other.Permits "versimpelaar" ↔ value.Permits "versimpelaar") →
      (other.Permits "subsidies" ↔ value.Permits "subsidies") → permitted ⟨other⟩ = permitted ⟨value⟩) ∧
    ∀ path more,
      (∀ reached, value.Leads path reached →
        (⟨value⟩ : User).flag (path ++ more) = (⟨reached⟩ : User).flag more) ∧
      ((∀ reached, ¬value.Leads path reached) → (⟨value⟩ : User).flag (path ++ more) = false) := by
  refine ⟨rfl, List.filter_sublist, ?_, ?_, ?_⟩
  · intro app member
    rw [permitted, List.mem_filter, and_iff_right member]
    simp only [all, List.mem_cons, List.not_mem_nil, or_false] at member
    rcases member with rfl | rfl | rfl
    · exact iff_of_true rfl (.inl rfl)
    · exact Permission.allows_granted_iff.trans (by simp)
    · exact Permission.allows_granted_iff.trans (by simp)
  · intro other admins simplifiers subsidies
    have same (name : String) (named : other.Permits name ↔ value.Permits name) :
        (Permission.granted name).allows ⟨other⟩ = (Permission.granted name).allows ⟨value⟩ := by
      rw [Bool.eq_iff_iff, Permission.allows_granted_iff, Permission.allows_granted_iff, admins, named]
    apply List.filter_congr
    intro app member
    simp only [all, List.mem_cons, List.not_mem_nil, or_false] at member
    rcases member with rfl | rfl | rfl
    · rfl
    · exact same "versimpelaar" simplifiers
    · exact same "subsidies" subsidies
  · intro path more
    exact ⟨fun reached leads => User.flag_append_of_leads leads more, fun lost => User.flag_append_of_lost lost more⟩

/-- A user with a permission that is no truth value and with a role that is a list opens what a plain user with the
other permission opens; no path leads through the list. -/
theorem odd_user_permitted :
    let granted : Json := .object [("subsidies", .bool true), ("versimpelaar", .string "true")]
    let odd : Json := .object [("permissions", .object [("app_launcher", granted)]), ("role", .array [.string "admin"])]
    let plain : Json := .object [("permissions", .object [("app_launcher", .object [("subsidies", .bool true)])])]
    (odd.Permits "subsidies" ∧ ¬odd.Permits "versimpelaar" ∧ ¬odd.TellsAdmin) ∧
    (plain.Permits "subsidies" ∧ ¬plain.Permits "versimpelaar" ∧ ¬plain.TellsAdmin) ∧
    permitted ⟨plain⟩ = permitted ⟨odd⟩ ∧ (permitted ⟨odd⟩).map (·.name) = ["Chat", "Subsidies"] ∧
    (odd.Leads ["permissions", "app_launcher"] granted ∧
      (⟨odd⟩ : User).flag ["permissions", "app_launcher", "subsidies"] = (⟨granted⟩ : User).flag ["subsidies"]) ∧
    (∀ reached, ¬odd.Leads ["role", "admin"] reached) ∧ (⟨odd⟩ : User).flag ["role", "admin", "more"] = false := by
  intro granted odd plain
  have facts (value : Json) (opens : (⟨value⟩ : User).flag ["permissions", "app_launcher", "subsidies"] = true)
      (denies : ¬(⟨value⟩ : User).flag ["permissions", "app_launcher", "versimpelaar"] = true)
      (common : ¬(⟨value⟩ : User).isAdmin = true) :
      value.Permits "subsidies" ∧ ¬value.Permits "versimpelaar" ∧ ¬value.TellsAdmin := by
    rw [User.flag_eq_true_iff] at opens denies
    rw [User.isAdmin_eq_true_iff] at common
    exact ⟨opens, denies, common⟩
  have odds := facts odd (by decide) (by decide) (by decide)
  have plains := facts plain (by decide) (by decide) (by decide)
  have leads : odd.Leads ["permissions", "app_launcher"] granted := .inside rfl (.inside rfl (.here granted))
  have lost (reached : Json) : ¬odd.Leads ["role", "admin"] reached := by
    intro leads
    cases User.reach?_eq_some_iff.mpr leads
  obtain ⟨names, part, opens, agree, paths⟩ := permitted_by_facts odd
  refine ⟨odds, plains, ?_, rfl, ⟨leads, ?_⟩, lost, ?_⟩
  · apply agree plain
    · exact iff_of_false plains.2.2 odds.2.2
    · exact iff_of_false plains.2.1 odds.2.1
    · exact iff_of_true plains.1 odds.1
  · exact (paths ["permissions", "app_launcher"] ["subsidies"]).1 granted leads
  · exact (paths ["role", "admin"] ["more"]).2 lost

end App

end AppLauncher
