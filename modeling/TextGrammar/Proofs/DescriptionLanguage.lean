import TextGrammar.Proofs.Collapsing

/-! The JSON values that describe forms, and the patterns in them. Reading accepts these values and
no others. Then the first pattern that cannot be compiled is the error, if there is one. -/

namespace TextGrammar

namespace Json

def IsScalar : Json → Prop
  | .string _ | .number _ | .bool _ => True
  | _ => False

/-- A value that describes a form. Members that are not named here may be there or not. -/
inductive IsDescription : Json → Prop
  | string {text} : IsDescription (.string text)
  | number {value} : IsDescription (.number value)
  | bool {value} : IsDescription (.bool value)
  | array {items} (each : ∀ item ∈ items, IsDescription item) : IsDescription (.array items)
  | oneOf {members forms} (type : members.lookup "type" = some (.string "OneOf"))
      (found : members.lookup "forms" = some (.array forms))
      (each : ∀ form ∈ forms, IsDescription form) : IsDescription (.object members)
  | manyOf {members form} (type : members.lookup "type" = some (.string "ManyOf"))
      (found : members.lookup "form" = some form) (inside : IsDescription form) :
      IsDescription (.object members)
  | optional {members form} (type : members.lookup "type" = some (.string "Optional"))
      (found : members.lookup "form" = some form) (inside : IsDescription form) :
      IsDescription (.object members)
  | reference {members name} (type : members.lookup "type" = some (.string "Ref"))
      (found : members.lookup "name" = some (.string name)) : IsDescription (.object members)
  | except {members form exceptions} (type : members.lookup "type" = some (.string "Except"))
      (found : members.lookup "form" = some form) (inside : IsDescription form)
      (excluded : members.lookup "exceptions" = some (.array exceptions))
      (each : ∀ exception ∈ exceptions, exception.IsScalar) : IsDescription (.object members)
  | pattern {members source} (type : members.lookup "type" = some (.string "RegularExpression"))
      (found : members.lookup "pattern" = some (.string source)) :
      IsDescription (.object members)

mutual

def patterns : Json → List String
  | .array items => patternsOfAll items
  | .object members =>
    match members.lookup "type" with
    | some (.string "OneOf") => patternsOfMember "forms" members
    | some (.string "ManyOf") => patternsOfMember "form" members
    | some (.string "Optional") => patternsOfMember "form" members
    | some (.string "Except") => patternsOfMember "form" members
    | some (.string "RegularExpression") =>
      match members.lookup "pattern" with
      | some (.string source) => [source]
      | _ => []
    | _ => []
  | _ => []
termination_by structural value => value

def patternsOfAll : List Json → List String
  | [] => []
  | item :: rest => item.patterns ++ patternsOfAll rest
termination_by structural items => items

def patternsOfMember (name : String) : List (String × Json) → List String
  | [] => []
  | (key, value) :: rest => if name == key then value.patterns else patternsOfMember name rest
termination_by structural members => members

end

end Json

namespace Form

section Reading

variable {type name : String} {members : List (String × Json)} {value : Json}

theorem isScalar_iff {json : Json} : json.IsScalar ↔ ∃ text, exclusionOfJson json = .ok text := by
  cases json <;> simp [Json.IsScalar, exclusionOfJson]

theorem member_eq_ok_iff :
    member type name members = .ok value ↔ members.lookup name = some value := by
  rw [member]
  cases members.lookup name <;> simp

theorem textOfMember_eq_ok_iff {text : String} :
    textOfMember type name members = .ok text ↔ members.lookup name = some (.string text) := by
  constructor
  · intro read
    rcases ok_of_bind_eq_ok read with ⟨value, found, read⟩
    rw [member_eq_ok_iff] at found
    cases value <;> cases read
    exact found
  · intro found
    rw [textOfMember, member_eq_ok_iff.mpr found]
    rfl

theorem exists_exclusionsOfMember_iff :
    (∃ exclusions, exclusionsOfMember members = .ok exclusions) ↔
      ∃ items, members.lookup "exceptions" = some (.array items) ∧
        ∀ item ∈ items, item.IsScalar := by
  simp only [isScalar_iff, ← exists_mapM_eq_ok_iff]
  constructor
  · rintro ⟨exclusions, read⟩
    rcases ok_of_bind_eq_ok read with ⟨value, found, read⟩
    rw [member_eq_ok_iff] at found
    cases value with
    | array items => exact ⟨items, found, exclusions, read⟩
    | _ => cases read
  · rintro ⟨items, found, exclusions, read⟩
    refine ⟨exclusions, ?_⟩
    rw [exclusionsOfMember, member_eq_ok_iff.mpr found]
    exact read

mutual

theorem described_of_ofJson : ∀ (json : Json) {form : Form String}, ofJson json = .ok form →
    json.IsDescription ∧ form.leaves = json.patterns
  | .null, _, read => by cases read
  | .bool _, _, read => by
      cases read
      exact ⟨.bool, rfl⟩
  | .number _, _, read => by
      cases read
      exact ⟨.number, rfl⟩
  | .string _, _, read => by
      cases read
      exact ⟨.string, rfl⟩
  | .array items, _, read => by
      rcases ok_of_map_eq_ok read with ⟨forms, parts, rfl⟩
      rcases described_of_allOfJson items parts with ⟨each, same⟩
      exact ⟨.array each, same⟩
  | .object members, _, read => by
      rw [ofJson] at read
      rw [Json.patterns]
      split at read
      · rename_i type
        rcases ok_of_map_eq_ok read with ⟨forms, parts, rfl⟩
        rcases described_of_formsOfMember "OneOf" "forms" members parts with
          ⟨items, found, each, same⟩
        rw [type]
        exact ⟨.oneOf type found each, same⟩
      · rename_i type
        rcases ok_of_map_eq_ok read with ⟨form, part, rfl⟩
        rcases described_of_formOfMember "ManyOf" "form" members part with
          ⟨value, found, inside, same⟩
        rw [type]
        exact ⟨.manyOf type found inside, same⟩
      · rename_i type
        rcases ok_of_map_eq_ok read with ⟨form, part, rfl⟩
        rcases described_of_formOfMember "Optional" "form" members part with
          ⟨value, found, inside, same⟩
        rw [type]
        exact ⟨.optional type found inside, same⟩
      · rename_i type
        rcases ok_of_map_eq_ok read with ⟨text, found, rfl⟩
        rw [type]
        exact ⟨.reference type (textOfMember_eq_ok_iff.mp found), rfl⟩
      · rename_i type
        rcases ok_of_bind_eq_ok read with ⟨form, part, read⟩
        rcases ok_of_bind_eq_ok read with ⟨exclusions, excluded, read⟩
        cases read
        rcases described_of_formOfMember "Except" "form" members part with
          ⟨value, found, inside, same⟩
        rcases exists_exclusionsOfMember_iff.mp ⟨exclusions, excluded⟩ with
          ⟨exceptions, listed, each⟩
        rw [type]
        exact ⟨.except type found inside listed each, same⟩
      · rename_i type
        rcases ok_of_map_eq_ok read with ⟨source, found, rfl⟩
        rw [textOfMember_eq_ok_iff] at found
        rw [type, found]
        exact ⟨.pattern type found, rfl⟩
      · cases read
      · cases read

theorem described_of_allOfJson : ∀ (items : List Json) {forms : List (Form String)},
    allOfJson items = .ok forms →
      (∀ item ∈ items, item.IsDescription) ∧ leavesOfAll forms = Json.patternsOfAll items
  | [], _, read => by
      cases read
      exact ⟨List.forall_mem_nil _, rfl⟩
  | item :: rest, _, read => by
      rcases ok_of_bind_eq_ok read with ⟨first, one, read⟩
      rcases ok_of_bind_eq_ok read with ⟨others, more, read⟩
      cases read
      rcases described_of_ofJson item one with ⟨described, same⟩
      rcases described_of_allOfJson rest more with ⟨each, sameToo⟩
      refine ⟨List.forall_mem_cons.mpr ⟨described, each⟩, ?_⟩
      rw [leavesOfAll, Json.patternsOfAll, same, sameToo]

theorem described_of_formOfMember (type name : String) :
    ∀ (members : List (String × Json)) {form : Form String},
      formOfMember type name members = .ok form →
        ∃ value, members.lookup name = some value ∧ value.IsDescription ∧
          form.leaves = Json.patternsOfMember name members
  | [], _, read => by cases read
  | (key, value) :: rest, _, read => by
      rw [formOfMember] at read
      rw [List.lookup_cons, Json.patternsOfMember]
      by_cases here : name == key
      · rw [if_pos here] at read
        rw [here, if_pos rfl]
        exact ⟨value, rfl, described_of_ofJson value read⟩
      · rw [if_neg here] at read
        rw [eq_false_of_ne_true here, if_neg Bool.false_ne_true]
        exact described_of_formOfMember type name rest read

theorem described_of_formsOfMember (type name : String) :
    ∀ (members : List (String × Json)) {forms : List (Form String)},
      formsOfMember type name members = .ok forms →
        ∃ items, members.lookup name = some (.array items) ∧
          (∀ item ∈ items, item.IsDescription) ∧
          leavesOfAll forms = Json.patternsOfMember name members
  | [], _, read => by cases read
  | (key, value) :: rest, _, read => by
      -- The equation of `formsOfMember` also looks at the value, so it does not rewrite here.
      unfold formsOfMember at read
      rw [List.lookup_cons, Json.patternsOfMember]
      by_cases here : name == key
      · rw [if_pos here] at read
        rw [here, if_pos rfl]
        cases value with
        | array items => exact ⟨items, rfl, described_of_allOfJson items read⟩
        | _ => cases read
      · rw [if_neg here] at read
        rw [eq_false_of_ne_true here, if_neg Bool.false_ne_true]
        exact described_of_formsOfMember type name rest read

end

theorem allOfJson_eq_mapM (items : List Json) : allOfJson items = items.mapM ofJson := by
  induction items with
  | nil => rfl
  | cons item rest ih => rw [allOfJson, List.mapM_cons, ih]

theorem member_cons (type name key : String) (value : Json) (rest : List (String × Json)) :
    member type name ((key, value) :: rest) =
      if name == key then .ok value else member type name rest := by
  rw [member, member, List.lookup_cons]
  cases name == key <;> rfl

theorem formOfMember_eq (type name : String) (members : List (String × Json)) :
    formOfMember type name members = member type name members >>= ofJson := by
  induction members with
  | nil => rfl
  | cons first rest ih =>
      rw [member_cons, formOfMember, ih]
      split <;> rfl

theorem formsOfMember_eq (type name : String) (members : List (String × Json)) :
    formsOfMember type name members = (do
      match ← member type name members with
      | .array items => allOfJson items
      | other => .error (.wrongKind (type ++ " " ++ name) other.kind)) := by
  induction members with
  | nil => rfl
  | cons first rest ih =>
      unfold formsOfMember
      rw [member_cons, ih]
      split <;> rfl

theorem formOfMember_of_lookup (found : members.lookup name = some value) :
    formOfMember type name members = ofJson value := by
  rw [formOfMember_eq, member_eq_ok_iff.mpr found]
  rfl

theorem formsOfMember_of_lookup {items : List Json}
    (found : members.lookup name = some (.array items)) :
    formsOfMember type name members = allOfJson items := by
  rw [formsOfMember_eq, member_eq_ok_iff.mpr found]
  rfl

theorem exists_ofJson_of_described {json : Json} (described : json.IsDescription) :
    ∃ form, ofJson json = .ok form := by
  induction described with
  | @string text => exact ⟨.literal text, rfl⟩
  | @number value => exact ⟨.literal value.text, rfl⟩
  | @bool value => exact ⟨.literal (toString value), rfl⟩
  | @array items each ih =>
      rcases (exists_mapM_eq_ok_iff ofJson items).mpr ih with ⟨forms, read⟩
      refine ⟨.sequence forms, ?_⟩
      rw [ofJson, allOfJson_eq_mapM, read]
      rfl
  | @oneOf members items type found each ih =>
      rcases (exists_mapM_eq_ok_iff ofJson items).mpr ih with ⟨forms, read⟩
      refine ⟨.oneOf forms, ?_⟩
      rw [ofJson, type]
      change Form.oneOf <$> formsOfMember "OneOf" "forms" members = _
      rw [formsOfMember_of_lookup found, allOfJson_eq_mapM, read]
      rfl
  | @manyOf members value type found inside ih =>
      rcases ih with ⟨form, read⟩
      refine ⟨.manyOf form, ?_⟩
      rw [ofJson, type]
      change Form.manyOf <$> formOfMember "ManyOf" "form" members = _
      rw [formOfMember_of_lookup found, read]
      rfl
  | @optional members value type found inside ih =>
      rcases ih with ⟨form, read⟩
      refine ⟨.optional form, ?_⟩
      rw [ofJson, type]
      change Form.optional <$> formOfMember "Optional" "form" members = _
      rw [formOfMember_of_lookup found, read]
      rfl
  | @reference members name type found =>
      refine ⟨.reference name, ?_⟩
      rw [ofJson, type]
      change Form.reference <$> textOfMember "Ref" "name" members = _
      rw [textOfMember_eq_ok_iff.mpr found]
      rfl
  | @except members value exceptions type found inside excluded each ih =>
      rcases ih with ⟨form, read⟩
      rcases exists_exclusionsOfMember_iff.mpr ⟨exceptions, excluded, each⟩ with
        ⟨exclusions, listed⟩
      refine ⟨.except form exclusions, ?_⟩
      rw [ofJson, type]
      change (do
        let form ← formOfMember "Except" "form" members
        let exclusions ← exclusionsOfMember members
        return Form.except form exclusions) = _
      rw [formOfMember_of_lookup found, read, listed]
      rfl
  | @pattern members source type found =>
      refine ⟨.leaf source, ?_⟩
      rw [ofJson, type]
      change Form.leaf <$> textOfMember "RegularExpression" "pattern" members = _
      rw [textOfMember_eq_ok_iff.mpr found]
      rfl

/-- Reading accepts a value just if it describes a form. -/
theorem exists_ofJson_iff {json : Json} :
    (∃ form, ofJson json = .ok form) ↔ json.IsDescription := by
  constructor
  · rintro ⟨form, read⟩
    exact (described_of_ofJson json read).1
  · exact exists_ofJson_of_described

end Reading

end Form

section Engine

variable [RegexEngine]

theorem normalize_ofJson (json : Json) :
    (Draft.ofJson json).normalize =
      (Form.ofJson json).mapError .unsupported >>= Form.compile := rfl

theorem errorOf?_normalize_of_described {json : Json} (described : json.IsDescription) :
    errorOf? (Draft.ofJson json).normalize =
      (json.patterns.find? Pattern.rejects).map FormError.invalidPattern := by
  rcases Form.exists_ofJson_of_described described with ⟨form, read⟩
  rw [normalize_ofJson, read, ← (Form.described_of_ofJson json read).2, ← Form.errorOf?_compile]
  rfl

theorem normalize_of_rejected {json : Json} {source : String} (described : json.IsDescription)
    (first : json.patterns.find? Pattern.rejects = some source) :
    (Draft.ofJson json).normalize = .error (.invalidPattern source) := by
  have failed := errorOf?_normalize_of_described described
  rw [first] at failed
  exact errorOf?_eq_some_iff.mp failed

theorem normalize_of_accepted {json : Json} (described : json.IsDescription)
    (accepted : ∀ source ∈ json.patterns, Pattern.rejects source = false) :
    ∃ form, (Draft.ofJson json).normalize = .ok form := by
  have none : json.patterns.find? Pattern.rejects = none := by simpa using accepted
  have formed := errorOf?_normalize_of_described described
  rw [none] at formed
  exact errorOf?_eq_none_iff.mp formed

theorem normalize_of_not_described {json : Json} (other : ¬ json.IsDescription) :
    ∃ misfit, (Draft.ofJson json).normalize = .error (.unsupported misfit) := by
  cases read : Form.ofJson json with
  | error misfit =>
      refine ⟨misfit, ?_⟩
      rw [normalize_ofJson, read]
      rfl
  | ok form => exact absurd (Form.described_of_ofJson json read).1 other

theorem collapsed_of_normalize_ofJson {json : Json} {form : Form Pattern}
    (normalized : (Draft.ofJson json).normalize = .ok form) : form.Collapsed := by
  refine Draft.collapsed_of_normalize ?_ normalized
  intro used member
  simp [Draft.ofJson, Form.leaves] at member

/-- Reading accepts the values that describe forms and no others. What they describe is compiled up
to the first pattern that is rejected; where none is, no sequence of one form is left. -/
theorem descriptions_are_read_exactly (json : Json) :
    ((∃ form, Form.ofJson json = .ok form) ↔ json.IsDescription) ∧
      ((∃ misfit, (Draft.ofJson json).normalize = .error (.unsupported misfit)) ↔
        ¬ json.IsDescription) ∧
      (∀ source, (Draft.ofJson json).normalize = .error (.invalidPattern source) ↔
        json.IsDescription ∧ json.patterns.find? Pattern.rejects = some source) ∧
      ((∃ form, (Draft.ofJson json).normalize = .ok form) ↔
        json.IsDescription ∧ ∀ source ∈ json.patterns, Pattern.rejects source = false) ∧
      ∀ form, (Draft.ofJson json).normalize = .ok form → form.Collapsed := by
  have collapsed (form : Form Pattern) : (Draft.ofJson json).normalize = .ok form →
      form.Collapsed := collapsed_of_normalize_ofJson
  by_cases described : json.IsDescription
  · cases first : json.patterns.find? Pattern.rejects with
    | some source =>
        have failed := normalize_of_rejected described first
        have rejected : ∃ source ∈ json.patterns, Pattern.rejects source = true :=
          ⟨source, List.mem_of_find?_eq_some first, List.find?_some first⟩
        simpa [Form.exists_ofJson_iff, described, failed] using rejected
    | none =>
        have accepted : ∀ source ∈ json.patterns, Pattern.rejects source = false := by
          simpa using first
        rcases normalize_of_accepted described accepted with ⟨form, formed⟩
        have collapsed := collapsed form formed
        simpa [Form.exists_ofJson_iff, described, formed, collapsed] using accepted
  · rcases normalize_of_not_described described with ⟨misfit, failed⟩
    simp [Form.exists_ofJson_iff, described, failed]

end Engine

def halfBroken : Form String := .sequence [.leaf "a+", .optional (.leaf "("), .leaf ")"]

theorem descriptions_are_read_exactly_broken :
    (Draft.ofJson halfBroken.toJson).normalize = .error (.invalidPattern "(") ∧
      ∃ misfit, (Draft.ofJson (.array [halfBroken.toJson, .null])).normalize =
        .error (.unsupported misfit) := by
  constructor
  · apply ((descriptions_are_read_exactly halfBroken.toJson).2.2.1 "(").mpr
    have described := Form.exists_ofJson_iff.mp ⟨halfBroken, Form.ofJson_toJson halfBroken⟩
    exact ⟨described, by decide +kernel⟩
  · apply (descriptions_are_read_exactly _).2.1.mpr
    intro described
    cases described with
    | array each =>
        have null := each .null (List.mem_cons_of_mem _ List.mem_cons_self)
        cases null

end TextGrammar
