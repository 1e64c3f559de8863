import MessageKeys.Agent.Answer
import MessageKeys.Proofs.Json.RoundTrip

/-!
Configurations as they are written and read.

The names of the fields are written twice, for the configuration file and for the answer to an
agent. They agree (`configJson_eq`), and since no two of them are the same, each value is found
under its name (`mapM_unique?`) and no default is taken for it. The texts in the values may be any:
what the JSON text is made of does not change them (`Plain.readsBack`).
-/
namespace MessageKeys.Config

open Json

section Fields

variable {fields : List (Text × Json)} {field : Text × Json}

theorem unique?_of_mem (distinct : (fields.map Prod.fst).Nodup) (member : field ∈ fields) :
    unique? fields field.1 = some (some field.2) := by
  have only : fields.filter (·.1 == field.1) = [field] := by
    induction fields with
    | nil => cases member
    | cons first more ih =>
      rw [List.map_cons, List.nodup_cons] at distinct
      rcases List.mem_cons.mp member with rfl | later
      · have none : more.filter (·.1 == field.1) = [] := by
          rw [List.filter_eq_nil_iff]
          intro other inside same
          exact distinct.1 (eq_of_beq same ▸ List.mem_map_of_mem inside)
        rw [List.filter_cons_of_pos (by simp), none]
      · have other : first.1 ≠ field.1 := by
          intro same
          exact distinct.1 (same ▸ List.mem_map_of_mem later)
        rw [List.filter_cons_of_neg (by simpa using other), ih distinct.2 later]
  rw [unique?, only]

/-- Fields of different names are found under their names. -/
theorem mapM_unique? (distinct : (fields.map Prod.fst).Nodup) :
    (fields.map Prod.fst).mapM (unique? fields) = some (fields.map fun field => some field.2) := by
  have part : ∀ part, part ⊆ fields →
      (part.map Prod.fst).mapM (unique? fields) = some (part.map fun field => some field.2) := by
    intro part inside
    induction part with
    | nil => rfl
    | cons first more ih =>
      rw [List.cons_subset] at inside
      simp [unique?_of_mem distinct inside.1, ih inside.2]
  exact part fields (List.Subset.refl _)

end Fields

theorem texts?_ofTexts (texts : List Text) : texts? (ofTexts texts) = some texts := by
  have each : (texts.map string).mapM text? = some texts := by
    induction texts with
    | nil => rfl
    | cons first more ih => simp [ih, text?]
  exact each

theorem ofValues?_values (config : Config) : ofValues? (config.values.map some) = some config := by
  simp [ofValues?, values, fieldAt?, texts?_ofTexts, text?, bool?]

/-- No field is lost, and none is read as another. -/
theorem ofJson?_toJson (config : Config) : ofJson? config.toJson = some config := by
  have names : (fieldNames.zip config.values).map Prod.fst = fieldNames := rfl
  have values : (fieldNames.zip config.values).map (fun field => some field.2) =
      config.values.map some := rfl
  have distinct : ((fieldNames.zip config.values).map Prod.fst).Nodup := by
    rw [names]
    decide
  have read := mapM_unique? distinct
  rw [names, values] at read
  simp [toJson, ofJson?, read, ofValues?_values]

theorem plain_ofTexts (texts : List Text) : Plain (ofTexts texts) := by
  refine .array _ ?_
  intro item member
  obtain ⟨text, -, rfl⟩ := List.mem_map.mp member
  exact .string text

theorem plain_toJson (config : Config) : Plain config.toJson := by
  refine .object _ ?_
  intro field member
  have listed : field.2 ∈ config.values := (List.of_mem_zip member).2
  simp only [values, List.mem_cons, List.not_mem_nil, or_false] at listed
  rcases listed with same | same | same | same | same | same | same <;> rw [same]
  case inr.inr.inr.inl => exact .string _
  case inr.inr.inr.inr.inr.inr => exact .bool _
  all_goals exact plain_ofTexts _

theorem ofText?_prettyAt (config : Config) (level : Nat) :
    ofText? (prettyAt level config.toJson) = some config := by
  rw [ofText?, parseKnown?_prettyAt config.plain_toJson, Option.bind_some, ofJson?_toJson]

/-- A file that holds what was written of a valid configuration holds that configuration. -/
theorem ofFile_of_pretty {config : Config} {tree : FileTree} {path : Path}
    (valid : config.validate = .ok ()) (held : tree.readText path = .ok config.toJson.pretty) :
    ofFile tree path = .ok config := by
  have read : ofText? config.toJson.pretty = some config := config.ofText?_prettyAt 0
  simp [ofFile, held, read, valid]

/-- An agent is told the fields of the file, by the names that they have there. -/
theorem configJson_eq (config : Config) : Agent.configJson config = config.toJson := rfl

/-- In an answer the configuration stands one level in, behind where it comes from. -/
theorem pretty_loadedJson (loaded : Loaded) :
    ∃ lead, (Agent.loadedJson loaded).pretty =
      lead ++ prettyAt 1 (Agent.configJson loaded.config) ++ "\n\x7d".toList := by
  refine ⟨'{' :: newline 1 ++ writtenField 1 ("fromFile".toList, .bool loaded.fromFile) ++
    ',' :: newline 1 ++ quote "config".toList ++ [':', ' '], ?_⟩
  rw [pretty, Agent.loadedJson, Agent.record, prettyAt_object, block]
  simp [Text.join, writtenField, newline]

theorem plain_loadedJson (loaded : Loaded) : Plain (Agent.loadedJson loaded) := by
  refine .object _ ?_
  simp only [List.map_cons, List.map_nil, List.forall_mem_cons, configJson_eq]
  exact ⟨.bool loaded.fromFile, loaded.config.plain_toJson, by simp⟩

theorem field?_loadedJson (loaded : Loaded) :
    (Agent.loadedJson loaded).field? "config" = some (Agent.configJson loaded.config) := rfl

/-- A configuration is the same after it has been written to a file or told to an agent and read
again, whatever its texts are made of. -/
theorem survives_round_trip (config : Config) :
    ofText? config.toJson.pretty = some config ∧
      (config.validate = .ok () → ∀ tree path,
        tree.readText path = .ok config.toJson.pretty → ofFile tree path = .ok config) ∧
      (∀ level, ofText? (prettyAt level (Agent.configJson config)) = some config) ∧
      ∀ tree root fromFile, load tree root = .ok ⟨config, fromFile⟩ →
        ∃ answer lead, (Agent.Request.serve tree (.getConfig root)).answer = .ok answer ∧
          answer.pretty = lead ++ prettyAt 1 (Agent.configJson config) ++ "\n\x7d".toList ∧
          parse? answer.pretty = some answer ∧
          (answer.field? "config").bind ofJson? = some config := by
  refine ⟨config.ofText?_prettyAt 0, fun valid tree path held => ofFile_of_pretty valid held,
    ?told, ?asked⟩
  case told =>
    intro level
    rw [configJson_eq, ofText?_prettyAt]
  case asked =>
    intro tree root fromFile loaded
    obtain ⟨lead, shown⟩ := pretty_loadedJson ⟨config, fromFile⟩
    refine ⟨_, lead, ?_, shown, parseKnown?_prettyAt (plain_loadedJson _) _ 0, ?_⟩
    · rw [Agent.Request.serve, Agent.configAnswer, loaded]
    · rw [field?_loadedJson, Option.bind_some, configJson_eq, ofJson?_toJson]

end MessageKeys.Config
