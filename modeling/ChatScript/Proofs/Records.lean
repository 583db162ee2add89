import ChatScript.Config
import ChatScript.Proofs.Restarts

/-! # Records that are read back

A record is written as an object of those of its fields that have a value, and a field that was left
out is read as having none (`Json.fields?_ofFields`). So what is read from the document of settings,
of an error report or of a result is what was written: every field that is skipped when it is empty
gets the same value back for want of a member. `documents_read_back` puts this together with the
documents of counts; in particular, settings that were saved are the settings that are loaded.
-/

namespace ChatScript

namespace Json

variable {α : Type} {encode : α → Json} {decode : Decoder α}

/-- The members of a record that is written: its fields that have a value. -/
def membersOf (fields : List (String × Option Json)) : List (JsonText × Json) :=
  fields.filterMap fun field => field.2.map fun json => (some field.1, json)

theorem membersOf_cons_none (name : String) (fields : List (String × Option Json)) :
    membersOf ((name, none) :: fields) = membersOf fields := rfl

theorem membersOf_cons_some (name : String) (json : Json) (fields : List (String × Option Json)) :
    membersOf ((name, some json) :: fields) = (some name, json) :: membersOf fields := rfl

/-- The members of an object are its fields that have a value. -/
theorem mem_membersOf_iff {fields : List (String × Option Json)} {member : JsonText × Json} :
    member ∈ membersOf fields ↔ ∃ name, member.1 = some name ∧ (name, some member.2) ∈ fields := by
  simp only [membersOf, List.mem_filterMap, Prod.exists, Option.map_eq_some_iff]
  constructor
  · rintro ⟨name, value, listed, json, rfl, rfl⟩
    exact ⟨name, rfl, listed⟩
  · rintro ⟨name, named, listed⟩
    exact ⟨name, some member.2, listed, member.2, rfl, by rw [← named]⟩

/-- No name occurs more often among the members than among the fields. -/
theorem countP_membersOf_le (name : String) (fields : List (String × Option Json)) :
    (membersOf fields).countP (fun member => member.1 == some name) ≤
      (fields.map Prod.fst).count name := by
  induction fields with
  | nil => exact Nat.le_refl _
  | cons field fields ih =>
      obtain ⟨other, value⟩ := field
      rw [List.map_cons, List.count_cons]
      cases value with
      | none =>
          rw [membersOf_cons_none]
          exact Nat.le_add_right_of_le ih
      | some json =>
          rw [membersOf_cons_some, List.countP_cons]
          exact Nat.add_le_add ih (by simp)

/-- A field has a member exactly if it has a value. -/
theorem lookup_membersOf {fields : List (String × Option Json)}
    (distinct : (fields.map Prod.fst).Nodup) (name : String) :
    (membersOf fields).lookup (some name) = (fields.lookup name).join := by
  induction fields with
  | nil => rfl
  | cons field fields ih =>
      obtain ⟨other, value⟩ := field
      rw [List.map_cons, List.nodup_cons] at distinct
      specialize ih distinct.2
      by_cases same : name = other
      · subst same
        cases value with
        | none =>
            -- A later field of the same name would be found in place of this one.
            have absent : fields.lookup name = none := by
              rw [List.lookup_eq_none_iff]
              rintro ⟨other, value⟩ listed
              rw [bne_iff_ne]
              rintro rfl
              exact distinct.1 (List.mem_map.mpr ⟨_, listed, rfl⟩)
            rw [membersOf_cons_none, ih, absent, List.lookup_cons_self]
            rfl
        | some json =>
            rw [membersOf_cons_some, List.lookup_cons_self, List.lookup_cons_self]
            rfl
      · have different : (name == other) = false := beq_eq_false_iff_ne.mpr same
        cases value with
        | none => rw [membersOf_cons_none, ih, List.lookup_cons, different]
        | some json =>
            have apart : (some name == some other) = false := different
            rw [membersOf_cons_some, List.lookup_cons, List.lookup_cons, different, apart, ih]

/-- Fields that are listed with their names. -/
def Fields.ofList (fields : List (String × Option Json)) : Fields := fun name =>
  (fields.lookup name).join

/-- A record that is written is read with the fields that it was written with. -/
theorem fields?_ofFields {fields : List (String × Option Json)} {names : List String}
    (listed : fields.map Prod.fst = names) (distinct : names.Nodup) :
    fields? names (ofFields fields) = some (.ofList fields) := by
  subst listed
  rw [ofFields, ← membersOf, fields?, if_pos]
  · congr 1
    funext name
    exact lookup_membersOf distinct name
  · refine ⟨List.all_eq_true.mpr fun member inRecord => ?_,
      List.all_eq_true.mpr fun name _ => decide_eq_true ?_⟩
    · obtain ⟨name, named, -⟩ := mem_membersOf_iff.mp inRecord
      rw [named, Option.isSome_some]
    · rw [← List.countP_eq_length_filter]
      exact Nat.le_trans (countP_membersOf_le name fields) (List.nodup_iff_count.mp distinct name)

namespace Fields

variable {fields : Fields} {name : String}

/-- An optional field is read as it was written, also if it was left out. -/
theorem optional?_of_written {value : Option α} (written : fields name = value.map encode)
    (decodes : ∀ content ∈ value, decode (encode content) = some content)
    (solid : ∀ content, encode content ≠ .null) : fields.optional? name decode = some value := by
  rw [optional?, written]
  cases value with
  | none => rfl
  | some content =>
      rw [Option.map_some]
      split
      · rename_i absent
        cases absent
      · rename_i null
        exact absurd (Option.some.inj null) (solid content)
      · rename_i json _ same
        rw [← Option.some.inj same, decodes content rfl, Option.map_some]

/-- A field that is left out as long as it has its default gets the default back. -/
theorem withDefault?_of_written {value default : α} {omitted : Bool}
    (written : fields name = if omitted then none else some (encode value))
    (decodes : decode (encode value) = some value) (usual : omitted = true → default = value) :
    fields.withDefault? name decode default = some value := by
  rw [withDefault?, written]
  cases omitted with
  | true => rw [if_pos rfl, usual rfl]
  | false => exact decodes

end Fields

/-- A list is decoded from the array that encodes it. -/
theorem list?_array {items : List α} (decodes : ∀ item ∈ items, decode (encode item) = some item) :
    list? decode (.array (items.map encode)) = some items := by
  rw [list?]
  induction items with
  | nil => rfl
  | cons item items ih =>
      rw [List.forall_mem_cons] at decodes
      rw [List.map_cons, List.mapM_cons, decodes.1, ih decodes.2]
      rfl

theorem size?_integer {size : Nat} (small : size ≤ Text.maxSize) :
    size? (.integer size) = some size := by
  rw [size?, integerIn?, if_pos (by omega), Option.map_some, Int.toNat_natCast]

/-! ## Proper records -/

/-- An object is proper if its fields are. -/
theorem proper_ofFields {fields : List (String × Option Json)}
    (proper : ∀ field ∈ fields, ∀ json ∈ field.2, json.Proper) : (ofFields fields).Proper := by
  rw [ofFields, ← membersOf]
  refine .object (fun member inRecord => ?_) fun member inRecord => ?_
  all_goals obtain ⟨name, named, listed⟩ := mem_membersOf_iff.mp inRecord
  · rw [named, Option.isSome_some]
  · exact proper _ listed _ rfl

theorem proper_of_mem_some {json : Json} (proper : json.Proper) :
    ∀ other ∈ some json, other.Proper := by
  rintro _ ⟨⟩
  exact proper

theorem proper_of_mem_map {value : Option α} (proper : ∀ content ∈ value, (encode content).Proper) :
    ∀ json ∈ value.map encode, json.Proper := by
  intro json given
  obtain ⟨content, present, rfl⟩ := Option.map_eq_some_iff.mp given
  exact proper content present

theorem proper_of_mem_ite {omitted : Bool} {json : Json} (proper : json.Proper) :
    ∀ other ∈ (if omitted then none else some json), other.Proper := by
  cases omitted with
  | true => nofun
  | false => exact proper_of_mem_some proper

theorem proper_size {size : Nat} (small : size ≤ Text.maxSize) : (integer size).Proper :=
  .integer (by omega)

end Json

namespace Config

/-- The number of open blocks that settings allow is a size. -/
def Fits (config : Config) : Prop :=
  ∀ depth ∈ config.maxNestingDepth, depth ≤ Text.maxSize

/-- The fields of settings as they are written. -/
def members (config : Config) : List (String × Option Json) :=
  [("max_nesting_depth", config.maxNestingDepth.map fun depth : Nat => .integer depth),
    ("builtins",
      if config.builtins.isEmpty then none
      else some (Json.ofDictionary .ofString config.builtins)),
    ("counters_path", config.countersFile.map .ofString),
    ("command_prefix", some (.ofString config.sigil))]

theorem toJson_eq (config : Config) : config.toJson = Json.ofFields config.members := by
  rw [toJson, members]
  cases config.maxNestingDepth <;> rfl

variable {config : Config}

/-- Settings that fit are proper. -/
theorem proper_toJson (fits : config.Fits) : config.toJson.Proper := by
  have builtins : (Json.ofDictionary .ofString config.builtins).Proper :=
    Json.proper_ofDictionary fun entry _ => .string entry.2
  rw [toJson_eq]
  refine Json.proper_ofFields ?_
  simp only [members, List.forall_mem_cons]
  exact ⟨Json.proper_of_mem_map fun depth given => Json.proper_size (fits depth given),
    Json.proper_of_mem_ite builtins, Json.proper_of_mem_map fun path _ => .string path,
    Json.proper_of_mem_some (.string config.sigil), List.forall_mem_nil _⟩

/-- Settings that fit are decoded from their JSON form, where fields that are left out have their
defaults. -/
theorem ofJson?_toJson (fits : config.Fits) : ofJson? config.toJson = some config := by
  have depth : (Json.Fields.ofList config.members).optional? "max_nesting_depth" Json.size? =
      some config.maxNestingDepth :=
    Json.Fields.optional?_of_written rfl (fun depth given => Json.size?_integer (fits depth given))
      nofun
  have builtins : (Json.Fields.ofList config.members).withDefault? "builtins"
      (Json.dictionary? Json.string?) standard.builtins = some config.builtins :=
    Json.Fields.withDefault?_of_written rfl (Json.dictionary?_ofDictionary fun _ _ => rfl)
      fun empty => (Std.ExtTreeMap.isEmpty_iff.mp empty).symm
  have countersFile : (Json.Fields.ofList config.members).optional? "counters_path" Json.string? =
      some config.countersFile :=
    Json.Fields.optional?_of_written rfl (fun _ _ => rfl) nofun
  have sigil : (Json.Fields.ofList config.members).withDefault? "command_prefix" Json.string?
      standard.sigil = some config.sigil := rfl
  rw [ofJson?, toJson_eq, Json.fields?_ofFields, Option.bind_eq_bind, Option.bind_some, depth,
    builtins, countersFile, sigil]
  · rfl
  · rfl
  · decide

/-- Settings that are written are read back. -/
theorem read?_render (fits : config.Fits) : read? config.render = some config := by
  rw [read?, render, (proper_toJson fits).read?_render, Option.bind_some, ofJson?_toJson fits]

variable {environment : Environment} {disk : FaultyDisk}

/-- Settings that were saved are the settings that are loaded. -/
theorem load_of_save {after : FaultyDisk} (fits : config.Fits)
    (saved : (config.save environment : StateM FaultyDisk _).run disk = (.ok (), after)) :
    (load environment : StateM FaultyDisk _).run after = (config, after) := by
  have content : after.files environment.configPath = .ok config.render :=
    FaultyDisk.files_of_written saved
  have read : (Disk.read environment.configPath : StateM FaultyDisk _).run after =
      (.ok config.render, after) :=
    congrArg (·, after) content
  rw [load, StateT.run_bind, read]
  exact congrArg (fun found => (Option.getD found standard, after)) (read?_render fits)

/-- Settings can be saved where no operation fails. -/
theorem exists_save (sound : ∀ k, (disk.fates k).result = .ok ()) :
    ∃ after, (config.save environment : StateM FaultyDisk _).run disk = (.ok (), after) := by
  obtain ⟨between, made, stillSound⟩ :=
    FaultyDisk.exists_makeDirectories environment.directory sound
  rw [save, StateT.run_bind, made]
  refine ⟨between.written environment.configPath config.render, ?_⟩
  exact congrArg (·, between.written environment.configPath config.render) (stillSound 0)

end Config

namespace ErrorDetail

/-- The line of an error report is a size. -/
def Fits (detail : ErrorDetail) : Prop :=
  ∀ line ∈ detail.line, line ≤ Text.maxSize

/-- The fields of an error report as they are written. -/
def members (detail : ErrorDetail) : List (String × Option Json) :=
  [("line", detail.line.map fun line : Nat => .integer line),
    ("variable_name", detail.name.map .ofString), ("message", some (.ofString detail.message))]

theorem toJson_eq (detail : ErrorDetail) : detail.toJson = Json.ofFields detail.members := by
  rw [toJson, members]
  cases detail.line <;> rfl

variable {detail : ErrorDetail}

/-- An error report that fits is proper. -/
theorem proper_toJson (fits : detail.Fits) : detail.toJson.Proper := by
  rw [toJson_eq]
  refine Json.proper_ofFields ?_
  simp only [members, List.forall_mem_cons]
  exact ⟨Json.proper_of_mem_map fun line given => Json.proper_size (fits line given),
    Json.proper_of_mem_map fun name _ => .string name,
    Json.proper_of_mem_some (.string detail.message), List.forall_mem_nil _⟩

/-- An error report that fits is decoded from its JSON form. -/
theorem ofJson?_toJson (fits : detail.Fits) : ofJson? detail.toJson = some detail := by
  have line : (Json.Fields.ofList detail.members).optional? "line" Json.size? = some detail.line :=
    Json.Fields.optional?_of_written rfl (fun line given => Json.size?_integer (fits line given))
      nofun
  have name : (Json.Fields.ofList detail.members).optional? "variable_name" Json.string? =
      some detail.name :=
    Json.Fields.optional?_of_written rfl (fun _ _ => rfl) nofun
  have message : (Json.Fields.ofList detail.members).required? "message" Json.string? =
      some detail.message := rfl
  rw [ofJson?, toJson_eq, Json.fields?_ofFields, Option.bind_eq_bind, Option.bind_some, line, name,
    message]
  · rfl
  · rfl
  · decide

end ErrorDetail

namespace Outcome

/-- The line that a result names, if it has an error with a line, is a size. -/
def Fits (outcome : Outcome) : Prop :=
  ∀ detail ∈ outcome.error, detail.Fits

/-- The fields of a result as they are written. -/
def members (outcome : Outcome) : List (String × Option Json) :=
  [("success", some (.boolean outcome.success)),
    ("output_lines", some (.array (outcome.lines.map .ofString))),
    ("error", outcome.error.map ErrorDetail.toJson)]

theorem toJson_eq (outcome : Outcome) : outcome.toJson = Json.ofFields outcome.members := rfl

variable {outcome : Outcome}

/-- A result that fits is proper. -/
theorem proper_toJson (fits : outcome.Fits) : outcome.toJson.Proper := by
  have lines : ∀ item ∈ outcome.lines.map Json.ofString, item.Proper := by
    intro item listed
    obtain ⟨line, -, rfl⟩ := List.mem_map.mp listed
    exact .string line
  rw [toJson_eq]
  refine Json.proper_ofFields ?_
  simp only [members, List.forall_mem_cons]
  exact ⟨Json.proper_of_mem_some (.boolean outcome.success), Json.proper_of_mem_some (.array lines),
    Json.proper_of_mem_map fun detail given => ErrorDetail.proper_toJson (fits detail given),
    List.forall_mem_nil _⟩

/-- A result that fits is decoded from its JSON form. -/
theorem ofJson?_toJson (fits : outcome.Fits) : ofJson? outcome.toJson = some outcome := by
  have success : (Json.Fields.ofList outcome.members).required? "success" Json.boolean? =
      some outcome.success := rfl
  have lines : (Json.Fields.ofList outcome.members).required? "output_lines"
      (Json.list? Json.string?) = some outcome.lines :=
    Json.list?_array fun _ _ => rfl
  have error : (Json.Fields.ofList outcome.members).optional? "error" ErrorDetail.ofJson? =
      some outcome.error :=
    Json.Fields.optional?_of_written rfl
      (fun detail given => ErrorDetail.ofJson?_toJson (fits detail given)) nofun
  rw [ofJson?, toJson_eq, Json.fields?_ofFields, Option.bind_eq_bind, Option.bind_some, success,
    lines, error]
  · rfl
  · rfl
  · decide

/-- A result that is written is read back. -/
theorem read?_render (fits : outcome.Fits) : read? outcome.render = some outcome := by
  rw [read?, render, (proper_toJson fits).read?_render, Option.bind_some, ofJson?_toJson fits]

end Outcome

/-- Settings, results and counts are what is read from the documents that they are written as.
Settings can be saved where no operation fails, and once they are saved, they are what is loaded. -/
theorem documents_read_back :
    (∀ config : Config, config.Fits → Config.read? config.render = some config) ∧
    (∀ outcome : Outcome, outcome.Fits → Outcome.read? outcome.render = some outcome) ∧
    (∀ counts : Counts, counts.InRange → Counts.read? counts.render = some counts) ∧
    ∀ (config : Config) (environment : Environment) (disk : FaultyDisk), config.Fits →
      (∀ after, (config.save environment : StateM FaultyDisk _).run disk = (.ok (), after) →
        (Config.load environment : StateM FaultyDisk _).run after = (config, after)) ∧
      ((∀ k, (disk.fates k).result = .ok ()) →
        ∃ after, (config.save environment : StateM FaultyDisk _).run disk = (.ok (), after)) :=
  ⟨fun _ => Config.read?_render, fun _ => Outcome.read?_render, fun _ => Counts.read?_render,
    fun _ _ _ fits => ⟨fun _ => Config.load_of_save fits, Config.exists_save⟩⟩

/-- Settings with the greatest size and with texts that have to be escaped. -/
def exactingConfig : Config :=
  ⟨some Text.maxSize, (∅ : Std.ExtTreeMap String String).insert "a\"b\\" "\n\x01é", none, ""⟩

/-- Counts with the least number, for a channel whose name has to be escaped. -/
def exactingCounts : Counts :=
  (∅ : Counts).insert "#\t\"" ((∅ : Std.ExtTreeMap String Int).insert "hüg" Text.minNumber)

/-- Settings with the greatest limit and with text that has to be escaped are read back, and so are
a report without a line and the least of counts. -/
theorem documents_read_back_exacting :
    Config.read? exactingConfig.render = some exactingConfig ∧
    Outcome.read? (Outcome.render ⟨false, ["", "\\"], some ⟨none, some "naïve", "\x7f"⟩⟩) =
      some ⟨false, ["", "\\"], some ⟨none, some "naïve", "\x7f"⟩⟩ ∧
    Counts.read? exactingCounts.render = some exactingCounts ∧
    ∃ after,
      (exactingConfig.save ⟨some "home", none, none⟩ : StateM FaultyDisk _).run
          ⟨fun _ => .error .notFound, fun _ => ⟨.ok (), .ok "", false⟩⟩ = (.ok (), after) ∧
        (Config.load ⟨some "home", none, none⟩ : StateM FaultyDisk _).run after =
          (exactingConfig, after) := by
  obtain ⟨configs, outcomes, counts, saves⟩ := documents_read_back
  have fits : exactingConfig.Fits := by
    rintro depth ⟨⟩
    exact Nat.le_refl _
  have inRange : exactingCounts.InRange := by
    refine Counts.inRange_of_entries fun channel commands listed command value counted => ?_
    simp only [exactingCounts, Std.ExtTreeMap.getElem?_insert, Std.ExtTreeMap.getElem?_empty]
      at listed
    split at listed
    · cases listed
      simp only [Std.ExtTreeMap.getElem?_insert, Std.ExtTreeMap.getElem?_empty] at counted
      split at counted
      · cases counted
        decide
      · cases counted
    · cases listed
  obtain ⟨loads, succeeds⟩ := saves exactingConfig ⟨some "home", none, none⟩
    ⟨fun _ => .error .notFound, fun _ => ⟨.ok (), .ok "", false⟩⟩ fits
  obtain ⟨after, saved⟩ := succeeds fun _ => rfl
  refine ⟨configs _ fits, outcomes _ ?_, counts _ inRange, after, saved, loads after saved⟩
  rintro detail ⟨⟩ line ⟨⟩

end ChatScript
