import Glyphcast.Proofs.Message.Fields

/-!
# Which objects are understood

Of the many ways to write one message some are put together here from what the message is
(`Conveys`): its type and its fields, each written in any way that says what it is to say, some of
them left out, members that the message does not know added, and all in any order. And some objects
are told apart by what is wrong with them (`Faulty`). The first are understood, as the message, and
the second are not understood at all.

Between the two stands `Fits`, which goes by the message and looks at the object: there is one type
and it is the message's, and of each field there is one member and it says what it is to say, or
there is none and the field may be left out. An object that can be held is understood as a message
just if it fits, and what is conveyed fits, and what is faulty does not.
-/

namespace Glyphcast.Message

open Json (Gap Written WrittenKey WrittenMembers WrittenString maxLevels)
open Json.Written (Holds NamesRole)
open Fields (member?)

/-- A field of a message. -/
structure Field where
  /-- Its name. -/
  name : String
  /-- What may be written for it. -/
  Admits : Written → Prop
  /-- Whether it may be left out. -/
  Omittable : Prop

/-- The fields of a message. -/
def fields : Message → List Field
  | auth apiKey role =>
    [⟨"api_key", (·.Says apiKey), False⟩, ⟨"role", NamesRole role, role = .viewer⟩]
  | config cameraIndex resolution fps =>
    [⟨"camera_index", (·.Counts cameraIndex), cameraIndex = 0⟩,
      ⟨"resolution", (·.IsOpen Written.Says resolution), resolution = none⟩,
      ⟨"fps", (·.IsOpen Written.Counts fps), fps = none⟩]
  | playbackStart filename => [⟨"filename", (·.Says filename), False⟩]
  | playbackSpeed speed => [⟨"speed", (·.Measures speed), False⟩]
  | stop | recordStart | recordStop | playbackPause | playbackResume | playbackStop => []

/-- The names of the fields that a type has. -/
def fieldNames : String → List String
  | "auth" => ["api_key", "role"]
  | "config" => ["camera_index", "resolution", "fps"]
  | "playback_start" => ["filename"]
  | "playback_speed" => ["speed"]
  | _ => []

private theorem map_name_fields {m : Message} : m.fields.map (·.name) = fieldNames m.kind := by
  cases m <;> rfl

/-! ## Objects that fit a message -/

/-- There is one member with the field's name, and it says what it is to say; or there is none and
the field may be left out. -/
def Field.Fits (field : Field) (members : List (String × Written)) : Prop :=
  (∃ w, members.filter (·.1 == field.name) = [(field.name, w)] ∧ field.Admits w) ∨
    (members.filter (·.1 == field.name) = [] ∧ field.Omittable)

/-- The members of an object fit a message. -/
structure Fits (m : Message) (members : List (String × Written)) : Prop where
  tagged : ∃ tag, members.filter (·.1 == "type") = [("type", tag)] ∧ tag.Says m.kind
  fields : ∀ field ∈ m.fields, field.Fits members

variable {levels : Nat} {members : List (String × Written)} {read : List (String × Json)}
  {m : Message}

/-! Each message is put together from its fields, which are looked up one after the other. -/

private theorem ofFields?_auth : ofFields? "auth" (.named read) = some m ↔
    ∃ apiKey role, m = auth apiKey role ∧
      (∃ value, member? read "api_key" = some value ∧ value.bind Json.asText? = some apiKey) ∧
      ∃ value, member? read "role" = some value ∧
        defaulted value readRole? .viewer = some role := by
  simp only [ofFields?, Fields.values?, List.mapM_cons, List.mapM_nil]
  cases member? read "api_key" with
  | none => simp
  | some apiKey? =>
    cases member? read "role" with
    | none => simp
    | some role? =>
      simp only [Option.bind_eq_bind, Option.bind_some, Option.pure_def, Option.bind_eq_some_iff,
        Option.some.injEq, exists_eq_left']
      constructor
      · rintro ⟨apiKey, key, role, named, rfl⟩
        exact ⟨apiKey, role, rfl, key, named⟩
      · rintro ⟨apiKey, role, rfl, key, named⟩
        exact ⟨apiKey, key, role, named, rfl⟩

private theorem ofFields?_config : ofFields? "config" (.named read) = some m ↔
    ∃ cameraIndex resolution fps, m = config cameraIndex resolution fps ∧
      (∃ value, member? read "camera_index" = some value ∧
        defaulted value Json.asWord? 0 = some cameraIndex) ∧
      (∃ value, member? read "resolution" = some value ∧
        defaulted value (Json.asOptional? Json.asText?) none = some resolution) ∧
      ∃ value, member? read "fps" = some value ∧
        defaulted value (Json.asOptional? Json.asWord?) none = some fps := by
  simp only [ofFields?, Fields.values?, List.mapM_cons, List.mapM_nil]
  cases member? read "camera_index" with
  | none => simp
  | some cameraIndex? =>
    cases member? read "resolution" with
    | none => simp
    | some resolution? =>
      cases member? read "fps" with
      | none => simp
      | some fps? =>
        simp only [Option.bind_eq_bind, Option.bind_some, Option.pure_def, Option.bind_eq_some_iff,
          Option.some.injEq, exists_eq_left']
        constructor
        · rintro ⟨cameraIndex, first, resolution, second, fps, third, rfl⟩
          exact ⟨cameraIndex, resolution, fps, rfl, first, second, third⟩
        · rintro ⟨cameraIndex, resolution, fps, rfl, first, second, third⟩
          exact ⟨cameraIndex, first, resolution, second, fps, third, rfl⟩

private theorem ofFields?_playbackStart : ofFields? "playback_start" (.named read) = some m ↔
    ∃ filename, m = playbackStart filename ∧
      ∃ value, member? read "filename" = some value ∧ value.bind Json.asText? = some filename := by
  simp only [ofFields?, Fields.values?, List.mapM_cons, List.mapM_nil]
  cases member? read "filename" with
  | none => simp
  | some filename? =>
    simp only [Option.bind_eq_bind, Option.bind_some, Option.pure_def, Option.bind_eq_some_iff,
      Option.some.injEq, exists_eq_left']
    constructor
    · rintro ⟨filename, named, rfl⟩
      exact ⟨filename, rfl, named⟩
    · rintro ⟨filename, rfl, named⟩
      exact ⟨filename, named, rfl⟩

private theorem ofFields?_playbackSpeed : ofFields? "playback_speed" (.named read) = some m ↔
    ∃ speed, m = playbackSpeed speed ∧
      ∃ value, member? read "speed" = some value ∧ value.bind Json.asFloat? = some speed := by
  simp only [ofFields?, Fields.values?, List.mapM_cons, List.mapM_nil]
  cases member? read "speed" with
  | none => simp
  | some speed? =>
    simp only [Option.bind_eq_bind, Option.bind_some, Option.pure_def, Option.bind_eq_some_iff,
      Option.some.injEq, exists_eq_left']
    constructor
    · rintro ⟨speed, measured, rfl⟩
      exact ⟨speed, rfl, measured⟩
    · rintro ⟨speed, rfl, measured⟩
      exact ⟨speed, measured, rfl⟩

private theorem bare?_eq_some_iff {kind : String} :
    bare? kind = some m ↔ kind = m.kind ∧ m.fields = [] := by
  unfold bare?
  split <;> cases m <;> simp_all [Message.kind, Message.fields]

private theorem ofFields?_eq_some_iff (h : Holds levels members read) {kind : String} :
    ofFields? kind (.named read) = some m ↔
      kind = m.kind ∧ ∀ field ∈ m.fields, field.Fits members := by
  by_cases auth : kind = "auth"
  · cases auth
    rw [ofFields?_auth]
    simp only [required_iff h Written.asText?_eq_some_iff,
      defaulted_iff h Written.readRole?_eq_some_iff]
    cases m <;> simp [Message.kind, Message.fields, Field.Fits]
  by_cases config : kind = "config"
  · cases config
    have resolution := defaulted_iff h fun held ↦
      Written.asOptional?_eq_some_iff (fun _ ↦ Written.asText?_eq_some_iff held) rfl held
    have fps := defaulted_iff h fun held ↦
      Written.asOptional?_eq_some_iff (fun _ ↦ Written.asWord?_eq_some_iff held) rfl held
    rw [ofFields?_config]
    simp only [defaulted_iff h Written.asWord?_eq_some_iff, resolution, fps]
    cases m <;> simp [Message.kind, Message.fields, Field.Fits]
  by_cases playbackStart : kind = "playback_start"
  · cases playbackStart
    rw [ofFields?_playbackStart]
    simp only [required_iff h Written.asText?_eq_some_iff]
    cases m <;> simp [Message.kind, Message.fields, Field.Fits]
  by_cases playbackSpeed : kind = "playback_speed"
  · cases playbackSpeed
    rw [ofFields?_playbackSpeed]
    simp only [required_iff h Written.asFloat?_eq_some_iff]
    cases m <;> simp [Message.kind, Message.fields, Field.Fits]
  -- no other type has fields
  have bare : ofFields? kind (.named read) = bare? kind := by
    unfold ofFields?
    split
    · exact (auth rfl).elim
    · exact (config rfl).elim
    · exact (playbackStart rfl).elim
    · exact (playbackSpeed rfl).elim
    · rfl
  rw [bare, bare?_eq_some_iff]
  cases m <;> simp_all [Message.kind, Message.fields]

private theorem ne_type_of_mem_fields {field : Field} (mem : field ∈ m.fields) :
    field.name ≠ "type" := by
  have known : field.name ∈ fieldNames m.kind := map_name_fields ▸ List.mem_map_of_mem mem
  intro type
  rw [type] at known
  cases m <;> simp [Message.kind, fieldNames] at known

private theorem Field.fits_filter {field : Field} (other : field.name ≠ "type") :
    field.Fits (members.filter (·.1 != "type")) ↔ field.Fits members := by
  have same : (members.filter (·.1 != "type")).filter (·.1 == field.name) =
      members.filter (·.1 == field.name) := by
    rw [List.filter_filter]
    refine List.filter_congr fun member _ ↦ ?_
    by_cases named : member.1 = field.name
    · simp [named, other]
    · simp [named]
  rw [Fits, same]
  rfl

/-- An object is understood as a message just if it fits. -/
theorem ofJson?_eq_some_iff (h : Holds levels members read) :
    ofJson? (.object read) = some m ↔ Fits m members := by
  have beside := h.filter (· != "type")
  have split : split? (.object read) = (member? read "type").bind fun value ↦
      (value.bind Json.asText?).bind fun kind ↦
        some (kind, .named (read.filter (·.1 != "type"))) :=
    rfl
  have kind {kind : String} := required_iff h Written.asText?_eq_some_iff "type" (a := kind)
  rw [ofJson?, split]
  constructor
  · intro understood
    obtain ⟨_, cut, understood⟩ := Option.bind_eq_some_iff.mp understood
    obtain ⟨value, found, tagged⟩ := Option.bind_eq_some_iff.mp cut
    obtain ⟨_, text, ⟨⟩⟩ := Option.bind_eq_some_iff.mp tagged
    obtain ⟨rfl, fit⟩ := (ofFields?_eq_some_iff beside).mp understood
    refine ⟨kind.mp ⟨value, found, text⟩, fun field mem ↦ ?_⟩
    exact (Field.fits_filter (ne_type_of_mem_fields mem)).mp (fit field mem)
  · rintro ⟨tagged, fit⟩
    obtain ⟨value, found, text⟩ := kind.mpr tagged
    rw [found, Option.bind_some, text]
    refine (ofFields?_eq_some_iff beside).mpr ⟨rfl, fun field mem ↦ ?_⟩
    exact (Field.fits_filter (ne_type_of_mem_fields mem)).mpr (fit field mem)

/-! ## Objects that convey a message -/

/-- Some fields are written in these members, one after the other; what may be left out may be
missing. -/
inductive Shows : List Field → List (String × Written) → Prop where
  | nil : Shows [] []
  | shown {field : Field} {fields : List Field} {w : Written} {members : List (String × Written)}
    (admits : field.Admits w) (rest : Shows fields members) :
    Shows (field :: fields) ((field.name, w) :: members)
  | omitted {field : Field} {fields : List Field} {members : List (String × Written)}
    (omittable : field.Omittable) (rest : Shows fields members) : Shows (field :: fields) members

/-- The members of an object are the type of a message and its fields, and others that the message
does not know, in any order. -/
def Conveys (members : List (String × Written)) (m : Message) : Prop :=
  ∃ tag shown extras, members.Perm (("type", tag) :: (shown ++ extras)) ∧ tag.Says m.kind ∧
    Shows m.fields shown ∧
    ∀ extra ∈ extras, extra.1 ≠ "type" ∧ ∀ field ∈ m.fields, extra.1 ≠ field.name

private theorem Shows.name_mem {fields : List Field} {shown : List (String × Written)}
    (h : Shows fields shown) : ∀ member ∈ shown, member.1 ∈ fields.map (·.name) := by
  induction h with
  | nil => nofun
  | shown admits rest ih =>
    rintro member (_ | ⟨_, mem⟩)
    · exact List.mem_cons_self
    · exact List.mem_cons_of_mem _ (ih member mem)
  | omitted omittable rest ih => exact fun member mem ↦ List.mem_cons_of_mem _ (ih member mem)

private theorem filter_eq_nil {members : List (String × Written)} {name : String}
    (others : ∀ member ∈ members, member.1 ≠ name) : members.filter (·.1 == name) = [] :=
  List.filter_eq_nil_iff.mpr fun member mem ↦ by simp [others member mem]

theorem Shows.fits {fields : List Field} {shown : List (String × Written)} (h : Shows fields shown)
    (nodup : (fields.map (·.name)).Nodup) : ∀ field ∈ fields, field.Fits shown := by
  induction h with
  | nil => nofun
  | @shown first fields w members admits rest ih =>
    rw [List.map_cons, List.nodup_cons] at nodup
    have alone : members.filter (·.1 == first.name) = [] :=
      filter_eq_nil fun member mem same ↦ nodup.1 (same ▸ rest.name_mem member mem)
    intro field mem
    rcases List.mem_cons.mp mem with rfl | mem
    · exact .inl ⟨w, by rw [List.filter_cons_of_pos (by simp), alone], admits⟩
    · have other : field.name ≠ first.name :=
        fun same ↦ nodup.1 (same ▸ List.mem_map_of_mem mem)
      rw [Field.Fits, List.filter_cons_of_neg (by simp [other.symm])]
      exact ih nodup.2 field mem
  | @omitted first fields members omittable rest ih =>
    rw [List.map_cons, List.nodup_cons] at nodup
    have missing : members.filter (·.1 == first.name) = [] :=
      filter_eq_nil fun member mem same ↦ nodup.1 (same ▸ rest.name_mem member mem)
    intro field mem
    rcases List.mem_cons.mp mem with rfl | mem
    · exact .inr ⟨missing, omittable⟩
    · exact ih nodup.2 field mem

private theorem nodup_fieldNames (m : Message) : (fieldNames m.kind).Nodup := by
  cases m <;> simp [Message.kind, fieldNames]

/-- What conveys a message fits it, whatever the order and whatever else there is. -/
theorem Conveys.fits (h : Conveys members m) : Fits m members := by
  obtain ⟨tag, shown, extras, perm, tagged, shows, others⟩ := h
  have untagged : ∀ member ∈ shown, member.1 ≠ "type" := by
    intro member mem
    obtain ⟨field, known, named⟩ := List.mem_map.mp (shows.name_mem member mem)
    exact named ▸ ne_type_of_mem_fields known
  constructor
  · refine ⟨tag, ?_, tagged⟩
    have found := perm.filter (·.1 == "type")
    rw [List.filter_cons_of_pos rfl, List.filter_append, filter_eq_nil untagged,
      filter_eq_nil fun extra mem ↦ (others extra mem).1] at found
    exact List.perm_singleton.mp found
  · intro field mem
    have found := perm.filter (·.1 == field.name)
    rw [List.filter_cons_of_neg (by simp [(ne_type_of_mem_fields mem).symm]), List.filter_append,
      filter_eq_nil fun extra known ↦ (others extra known).2 field mem, List.append_nil] at found
    rcases shows.fits (map_name_fields ▸ nodup_fieldNames m) field mem with
      ⟨w, once, admits⟩ | ⟨missing, omittable⟩
    · rw [once] at found
      exact .inl ⟨w, List.perm_singleton.mp found, admits⟩
    · rw [missing] at found
      exact .inr ⟨found.eq_nil, omittable⟩

/-! ## Objects that are faulty -/

/-- The types that there are. -/
def kinds : List String :=
  ["auth", "config", "stop", "record_start", "record_stop", "playback_start", "playback_pause",
    "playback_resume", "playback_stop", "playback_speed"]

/-- The names of the fields that a type cannot do without. -/
def neededNames : String → List String
  | "auth" => ["api_key"]
  | "playback_start" => ["filename"]
  | "playback_speed" => ["speed"]
  | _ => []

/-- What may be wrong with the members of an object. -/
inductive Faulty (members : List (String × Written)) : Prop where
  /-- There is no type. -/
  | untyped (missing : ∀ member ∈ members, member.1 ≠ "type")
  /-- There is more than one. -/
  | retyped (often : 2 ≤ (members.filter (·.1 == "type")).length)
  /-- It is not one of those that there are. -/
  | unknownType {tag : Written} (typed : ("type", tag) ∈ members)
    (unknown : ∀ kind ∈ kinds, ¬tag.Says kind)
  /-- A field of the type is repeated. -/
  | repeated {tag : Written} {kind name : String} (typed : ("type", tag) ∈ members)
    (tagged : tag.Says kind) (known : name ∈ fieldNames kind)
    (often : 2 ≤ (members.filter (·.1 == name)).length)
  /-- A field that the type needs is missing. -/
  | lacking {tag : Written} {kind name : String} (typed : ("type", tag) ∈ members)
    (tagged : tag.Says kind) (needed : name ∈ neededNames kind)
    (missing : ∀ member ∈ members, member.1 ≠ name)
  /-- A role is asked for that does not exist. -/
  | unknownRole {tag w : Written} (typed : ("type", tag) ∈ members) (tagged : tag.Says "auth")
    (given : ("role", w) ∈ members) (unknown : ∀ role, ¬NamesRole role w)
  /-- The index of the camera is not written as a whole number of 32 bits. -/
  | cameraIndex {tag w : Written} (typed : ("type", tag) ∈ members) (tagged : tag.Says "config")
    (given : ("camera_index", w) ∈ members) (other : ∀ n, ¬w.Counts n)
  /-- The rate is not, and it is not left open either. -/
  | fps {tag w : Written} (typed : ("type", tag) ∈ members) (tagged : tag.Says "config")
    (given : ("fps", w) ∈ members) (closed : w ≠ .null) (other : ∀ n, ¬w.Counts n)

private theorem kind_mem_kinds (m : Message) : m.kind ∈ kinds := by
  cases m <;> simp [Message.kind, kinds]

private theorem exists_field_of_needed {name : String} (needed : name ∈ neededNames m.kind) :
    ∃ field ∈ m.fields, field.name = name ∧ ¬field.Omittable := by
  cases m <;> simp_all [Message.kind, neededNames, Message.fields]

variable {tag w : Written} {kind name : String}

private theorem Fits.tagged_of_mem (h : Fits m members) (typed : ("type", tag) ∈ members) :
    tag.Says m.kind := by
  obtain ⟨only, once, tagged⟩ := h.tagged
  have found : ("type", tag) ∈ members.filter (·.1 == "type") :=
    List.mem_filter.mpr ⟨typed, beq_self_eq_true _⟩
  rw [once] at found
  cases List.mem_singleton.mp found
  exact tagged

private theorem Fits.kind_eq (h : Fits m members) (typed : ("type", tag) ∈ members)
    (tagged : tag.Says kind) : kind = m.kind := by
  obtain ⟨s, rfl, value⟩ := h.tagged_of_mem typed
  obtain ⟨_, ⟨⟩, value'⟩ := tagged
  exact value'.symm.trans value

theorem Field.Fits.admits {field : Field} (h : field.Fits members)
    (given : (field.name, w) ∈ members) : field.Admits w := by
  have found : (field.name, w) ∈ members.filter (·.1 == field.name) :=
    List.mem_filter.mpr ⟨given, beq_self_eq_true _⟩
  rcases h with ⟨only, once, admits⟩ | ⟨missing, -⟩
  · rw [once] at found
    cases List.mem_singleton.mp found
    exact admits
  · rw [missing] at found
    nomatch found

/-- What is faulty does not fit. -/
theorem Fits.not_faulty (h : Fits m members) : ¬Faulty members := by
  intro faulty
  cases faulty with
  | untyped missing =>
    obtain ⟨only, once, -⟩ := h.tagged
    rw [filter_eq_nil missing] at once
    nomatch once
  | retyped often =>
    obtain ⟨only, once, -⟩ := h.tagged
    rw [once] at often
    exact absurd often (by simp)
  | unknownType typed unknown =>
    exact unknown m.kind (kind_mem_kinds m) (h.tagged_of_mem typed)
  | repeated typed tagged known often =>
    cases h.kind_eq typed tagged
    rw [← map_name_fields] at known
    obtain ⟨field, mem, rfl⟩ := List.mem_map.mp known
    rcases h.fields field mem with ⟨only, once, -⟩ | ⟨missing, -⟩
    · rw [once] at often
      exact absurd often (by simp)
    · rw [missing] at often
      exact absurd often (by simp)
  | lacking typed tagged needed missing =>
    cases h.kind_eq typed tagged
    obtain ⟨field, mem, rfl, kept⟩ := exists_field_of_needed needed
    rcases h.fields field mem with ⟨only, once, -⟩ | ⟨-, omittable⟩
    · rw [filter_eq_nil missing] at once
      nomatch once
    · exact kept omittable
  | unknownRole typed tagged given unknown =>
    have same := h.kind_eq typed tagged
    cases m with
    | auth apiKey role =>
      exact unknown role ((h.fields _ (List.mem_cons_of_mem _ List.mem_cons_self)).admits given)
    | _ => simp [Message.kind] at same
  | cameraIndex typed tagged given other =>
    have same := h.kind_eq typed tagged
    cases m with
    | config cameraIndex resolution fps =>
      exact other cameraIndex ((h.fields _ List.mem_cons_self).admits given)
    | _ => simp [Message.kind] at same
  | fps typed tagged given closed other =>
    have same := h.kind_eq typed tagged
    cases m with
    | config cameraIndex resolution fps =>
      have admits := (h.fields _ (List.mem_cons_of_mem _ (List.mem_cons_of_mem _
        List.mem_cons_self))).admits given
      cases fps with
      | none => exact closed admits
      | some n => exact other n admits
    | _ => simp [Message.kind] at same

/-! ## What is promised -/

/-- What can be said of a text in which an object is written. -/
structure Understood (text : String) (w : Written) (members : List (String × Written)) : Prop where
  /-- If it conveys a message it is understood as the message, however it is laid out; its brackets
  must not be nested too deeply, and its numbers must be such as can be held. -/
  accepted : ∀ m, Conveys members m → w.depth ≤ maxLevels → w.isFinite = true →
    parse? text = some m
  /-- If there is something wrong with it, it is not understood. -/
  refused : Faulty members → parse? text = none

/-- The members of a value that is an object. -/
def members? : Written → Option (List (String × Written))
  | .object members => some members.toList
  | .emptyObject _ => some []
  | _ => none

private theorem holds_of_members? {w : Written} {value : Json}
    (isObject : members? w = some members) (held : w.value? levels = some value) :
    ∃ less read, value = .object read ∧ Holds less members read := by
  have kind := Written.kind_of_value? held
  cases w with
  | object written =>
    cases isObject
    cases value with
    | object read =>
      obtain ⟨less, values⟩ := kind
      exact ⟨less, read, rfl, Written.holds_of_values? values⟩
    | _ => exact kind.elim
  | emptyObject gap =>
    cases isObject
    cases value with
    | object read =>
      cases (kind : read = [])
      exact ⟨0, [], rfl, .nil⟩
    | _ => exact kind.elim
  | _ => nomatch isObject

/-- A text in which an object is written is understood as a message just if the object fits it and
can be held. -/
theorem parse?_object_eq_some_iff (before : Gap) (w : Written) (after : Gap)
    (isObject : members? w = some members) :
    parse? (String.ofList (before.chars ++ (w.text ++ after.chars))) = some m ↔
      Fits m members ∧ w.depth ≤ maxLevels ∧ w.isFinite = true := by
  rw [parse?, Json.parse?_text, ← Json.isSome_value?]
  cases held : w.value? maxLevels with
  | none =>
    constructor
    · rintro ⟨⟩
    · rintro ⟨-, ⟨⟩⟩
  | some value =>
    obtain ⟨less, read, rfl, holds⟩ := holds_of_members? isObject held
    exact (ofJson?_eq_some_iff holds).trans (and_iff_left rfl).symm

/-- However an object is written, and whatever white space stands around it, its members decide
whether it is understood. -/
theorem understood_text (before : Gap) (w : Written) (after : Gap)
    (isObject : members? w = some members) :
    Understood (String.ofList (before.chars ++ (w.text ++ after.chars))) w members := by
  have understood_iff {m : Message} := parse?_object_eq_some_iff (m := m) before w after isObject
  constructor
  · intro m conveys shallow finite
    exact understood_iff.mpr ⟨conveys.fits, shallow, finite⟩
  · intro faulty
    refine Option.eq_none_iff_forall_ne_some.mpr fun m understood ↦ ?_
    exact (understood_iff.mp understood).1.not_faulty faulty

/-- White space of these characters. -/
def gap (chars : List Char) (spaces : chars.all Json.isSpace = true) : Gap :=
  ⟨chars, List.all_eq_true.mp spaces⟩

/-- No white space. -/
def noGap : Gap := gap [] rfl

/-- A key without white space around it. -/
def plainKey (name : String) : WrittenKey := ⟨noGap, .ofText name, noGap, noGap⟩

/-- A number of one digit. -/
def digit (c : Char) (isDigit : c.isDigit = true) : Written :=
  .number ⟨false, ⟨[c], List.cons_ne_nil c [], List.forall_mem_singleton.mpr isDigit⟩,
    fun zero ↦ congrArg ([·]) (Option.some.inj zero), none, none⟩

/-- The word `type`, with its `y` as an escape. -/
def escapedType : WrittenString :=
  ⟨[.ofChar 't', .unit ⟨.ofNat 0, .ofNat 0, .ofNat 7, .ofNat 9⟩ (by decide), .ofChar 'p',
    .ofChar 'e']⟩

/-- The type comes last but one, and there are members that are not known, one of them twice. -/
def disguised : WrittenMembers :=
  .more ⟨gap [' '] rfl, .ofText "fps", noGap, gap ['\n'] rfl⟩ .null noGap <|
  .more (plainKey "x") (.array (.last noGap (digit '7' rfl) noGap)) noGap <|
  .more ⟨noGap, escapedType, noGap, noGap⟩ (.string (.ofText "config")) noGap <|
  .last (plainKey "x") (digit '0' rfl) (gap ['\t'] rfl)

/-- How the text looks. -/
def disguisedText : String :=
  "\x7b \"fps\":\nnull,\"x\":[7],\"t\\u0079pe\":\"config\",\"x\":0\t\x7d"

/-- Ten, with a point. -/
def fraction : Written :=
  .number ⟨false, ⟨['1', '0'], nofun, List.all_eq_true.mp rfl⟩, nofun,
    some ⟨['0'], nofun, List.all_eq_true.mp rfl⟩, none⟩

/-- A rate that is not written as a whole number. -/
def fractional : WrittenMembers :=
  .more (plainKey "type") (.string (.ofText "config")) noGap <|
  .last (plainKey "fps") fraction noGap

/-- How the text looks. -/
def fractionalText : String := "\x7b\"type\":\"config\",\"fps\":10.0\x7d"

private theorem conveys_disguised : Conveys disguised.toList (config 0 none none) := by
  have escaped : escapedType.value = "type" := by decide +kernel
  have members : disguised.toList = [("fps", .null)] ++
      [("x", .array (.last noGap (digit '7' rfl) noGap))] ++
        ("type", .string (.ofText "config")) :: [("x", digit '0' rfl)] := by
    simp only [disguised, plainKey, WrittenMembers.toList, WrittenString.value_ofText, escaped]
    rfl
  refine ⟨_, [("fps", .null)],
    [("x", .array (.last noGap (digit '7' rfl) noGap)), ("x", digit '0' rfl)],
    members ▸ List.perm_middle, ⟨_, rfl, WrittenString.value_ofText _⟩,
    .omitted rfl (.omitted rfl (.shown rfl .nil)), ?_⟩
  simp [Message.fields]

private theorem faulty_fractional : Faulty fractional.toList := by
  have members :
      fractional.toList = [("type", .string (.ofText "config")), ("fps", fraction)] := by
    simp only [fractional, plainKey, WrittenMembers.toList, WrittenString.value_ofText]
  rw [members]
  refine .fps List.mem_cons_self ⟨_, rfl, WrittenString.value_ofText _⟩
    (List.mem_cons_of_mem _ List.mem_cons_self) ?_ ?_
  · rintro ⟨⟩
  · rintro n ⟨_, ⟨⟩, -, whole, -⟩
    cases whole

/-- The first is a request for a stream that leaves everything open, and the second is nothing. -/
theorem understood_disguised :
    Understood disguisedText (.object disguised) disguised.toList ∧
      parse? disguisedText = some (config 0 none none) ∧
      Understood fractionalText (.object fractional) fractional.toList ∧
      parse? fractionalText = none := by
  have first : Understood disguisedText (.object disguised) disguised.toList :=
    understood_text noGap (.object disguised) noGap rfl
  have second : Understood fractionalText (.object fractional) fractional.toList :=
    understood_text noGap (.object fractional) noGap rfl
  exact ⟨first, first.accepted _ conveys_disguised (by decide) (by decide), second,
    second.refused faulty_fractional⟩

end Glyphcast.Message
