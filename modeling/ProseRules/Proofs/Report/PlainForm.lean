import ProseRules.Proofs.Outcome
import ProseRules.Proofs.Value.Fields
import ProseRules.Report.Datum

namespace ProseRules

/-!
# The plain form of data

The plain form keeps null, truth values, numbers and texts. It makes a list of every row of
data and a mapping with texts for keys of every mapping, and writes all else as a text. There is
one exactly if everything can be written that has to be. It is plain at every depth, and the data
that it leaves as they are are the plain ones.
-/

namespace Value

/-! ## Entries with names -/

/-- The entries of a mapping with texts for keys. -/
def ofNamed (named : List (String × Value)) : List (Value × Value) :=
  named.map fun item => (.text item.1, item.2)

variable {named : List (String × Value)}

theorem ofNamed_concat
    (named : List (String × Value))
    (item : String × Value) :
    ofNamed (named ++ [item]) = ofNamed named ++ [(.text item.1, item.2)] := by
  rw [ofNamed, List.map_append]
  rfl

theorem field?_ofNamed
    (name : String) :
    field? name (ofNamed named) = named.lookup name := by
  induction named with
  | nil =>
      rfl
  | cons item named inductionHypothesis =>
      obtain ⟨key, value⟩ := item
      rw [ofNamed, List.map_cons, field?_cons, ← ofNamed, inductionHypothesis]
      by_cases isKey : key = name
      · rw [isKey, List.lookup_cons_self, if_pos rfl]
      · have isOther : (name == key) = false := beq_false_of_ne (Ne.symm isKey)
        rw [if_neg isKey, List.lookup_cons, isOther]

/-- Of several settings of a name the last one counts. -/
theorem field?_update_ofNamed
    (name : String)
    (entries : List (Value × Value)) :
    field? name (update entries (ofNamed named)) =
      (named.reverse.lookup name).or (field? name entries) := by
  rw [field?_update, ofNamed, ← List.map_reverse, ← ofNamed, field?_ofNamed]

/-- A name that has come up is not repeated. -/
theorem eraseDups_concat
    (names : List String)
    (name : String) :
    (names ++ [name]).eraseDups =
      if name ∈ names then names.eraseDups else names.eraseDups ++ [name] := by
  rw [List.eraseDups_append]
  split
  · rename_i isOld
    simp [List.removeAll, isOld]
  · rename_i isNew
    simp [List.removeAll, isNew, List.eraseDups_cons]

theorem nodup_eraseDups
    (names : List String) :
    names.eraseDups.Nodup := by
  induction names using List.reverseRecOn with
  | nil =>
      exact List.nodup_nil
  | append_singleton names name inductionHypothesis =>
      rw [eraseDups_concat]
      split
      · exact inductionHypothesis
      · rename_i isNew
        refine List.nodup_append.mpr ⟨inductionHypothesis, by simp, ?_⟩
        intro other isOld last isLast
        rw [List.mem_singleton.mp isLast]
        rintro rfl
        exact isNew (List.mem_eraseDups.mp isOld)

/-- Names that are set one after the other are kept in the order in which they come up. -/
theorem map_fst_update_ofNamed
    (named : List (String × Value)) :
    (update [] (ofNamed named)).map (·.1) = ((named.map (·.1)).eraseDups).map text := by
  induction named using List.reverseRecOn with
  | nil =>
      rfl
  | append_singleton named item inductionHypothesis =>
      have isNew_iff :
          field? item.1 (update [] (ofNamed named)) = none ↔ item.1 ∉ named.map (·.1) := by
        rw [field?_eq_none_iff, inductionHypothesis, List.mem_map_of_injective fun _ _ => text.inj,
          List.mem_eraseDups]
      rw [ofNamed_concat, update_concat, List.map_append, List.map_singleton, eraseDups_concat]
      split
      · rename_i isOld
        rw [map_fst_insert (mt isNew_iff.mp (not_not.mpr isOld)), inductionHypothesis]
      · rename_i isNew
        rw [map_fst_insert_of_missing (isNew_iff.mpr isNew), inductionHypothesis,
          List.map_append, List.map_singleton]

/-- The entries of a mapping with names are entries with these names. -/
theorem exists_named_of_map_fst
    {entries : List (Value × Value)}
    {names : List String}
    (keys : entries.map (·.1) = names.map text) :
    ∃ named, entries = ofNamed named ∧ named.map (·.1) = names := by
  induction entries generalizing names with
  | nil =>
      cases names with
      | nil => exact ⟨[], rfl, rfl⟩
      | cons name names => cases keys
  | cons entry entries inductionHypothesis =>
      cases names with
      | nil => cases keys
      | cons name names =>
          obtain ⟨isName, laterKeys⟩ := List.cons.inj keys
          obtain ⟨named, rfl, rfl⟩ := inductionHypothesis laterKeys
          obtain ⟨key, value⟩ := entry
          cases isName
          exact ⟨(name, value) :: named, rfl, rfl⟩

/-- Names that are set one after the other make a mapping in which each name comes once. -/
theorem exists_distinct_named
    (isValue : Value → Prop)
    (areValues : ∀ item ∈ named, isValue item.2) :
    ∃ distinct,
      update [] (ofNamed named) = ofNamed distinct ∧
        distinct.map (·.1) = (named.map (·.1)).eraseDups ∧
          ∀ item ∈ distinct, isValue item.2 := by
  obtain ⟨distinct, isDistinct, sameNames⟩ := exists_named_of_map_fst (map_fst_update_ofNamed named)
  refine ⟨distinct, isDistinct, sameNames, fun item member => ?_⟩
  have noOld : ∀ entry ∈ ([] : List (Value × Value)), True ∧ isValue entry.2 :=
    List.forall_mem_nil _
  have given : ∀ entry ∈ ofNamed named, True ∧ isValue entry.2 :=
    List.forall_mem_map.mpr fun other isGiven => ⟨trivial, areValues other isGiven⟩
  have kept := forall_mem_update (fun _ => True) isValue noOld given
  rw [isDistinct] at kept
  exact (kept _ (List.mem_map_of_mem member)).2

/-- Names that differ are set one after the other. -/
theorem update_ofNamed_eq_self
    (distinct : (named.map (·.1)).Nodup) :
    update [] (ofNamed named) = ofNamed named := by
  refine (update_eq_append ?_).trans (List.nil_append _)
  rw [List.nil_append, ofNamed, List.pairwise_map]
  refine (List.pairwise_map.mp distinct).imp fun isOther => ?_
  rw [equals_text, decide_eq_false isOther]

end Value

namespace Datum

/-- The data are null, a truth value, a number or a text. -/
def isScalar : Datum → Bool
  | null | bool _ | int _ | real _ | text _ => true
  | _ => false

/-- The elements of a list, tuple or set. -/
def row? : Datum → Option (List Datum)
  | list elements | tuple elements | set elements => some elements
  | _ => none

/-- A property of data that passes from elements and from what keys stand for to the whole. -/
@[elab_as_elim] theorem kind_induction
    {motive : Datum → Prop}
    (scalar : ∀ datum, datum.isScalar = true → motive datum)
    (other : ∀ written, motive (.other written))
    (row :
      ∀ datum elements,
        datum.row? = some elements → (∀ element ∈ elements, motive element) → motive datum)
    (mapping : ∀ entries, (∀ entry ∈ entries, motive entry.2) → motive (.mapping entries))
    (datum : Datum) :
    motive datum :=
  match datum with
  | null | bool _ | int _ | real _ | text _ => scalar _ rfl
  | .other written => other written
  | list elements | tuple elements | set elements =>
      row _ elements rfl fun element _ => kind_induction scalar other row mapping element
  | .mapping entries =>
      mapping entries fun entry member =>
        have : sizeOf entry.2 < 1 + sizeOf entries := by
          obtain ⟨key, datum⟩ := entry
          have smaller := List.sizeOf_lt_of_mem member
          simp only [Prod.mk.sizeOf_spec] at smaller ⊢
          omega
        kind_induction scalar other row mapping entry.2

/-- All keys and all objects of other kinds in the data can be written. -/
inductive CanBeWritten : Datum → Prop
  | scalar {datum : Datum} (isScalar : datum.isScalar = true) : CanBeWritten datum
  | other {s : String} : CanBeWritten (.other (.ok s))
  | row {datum : Datum} {elements : List Datum}
      (isRow : datum.row? = some elements)
      (parts : ∀ element ∈ elements, CanBeWritten element) :
      CanBeWritten datum
  | mapping {entries : List (Key × Datum)}
      (keys : ∀ entry ∈ entries, ∃ name, entry.1.written = .ok name)
      (parts : ∀ entry ∈ entries, CanBeWritten entry.2) :
      CanBeWritten (.mapping entries)

/-- The data consist of scalars, lists, and mappings with texts for keys, each key once. -/
inductive IsPlain : Datum → Prop
  | scalar {datum : Datum} (isScalar : datum.isScalar = true) : IsPlain datum
  | list {elements : List Datum} (parts : ∀ element ∈ elements, IsPlain element) :
      IsPlain (.list elements)
  | mapping {names : List String} {entries : List (Key × Datum)}
      (keys : entries.map (·.1) = names.map .text)
      (distinct : names.Nodup)
      (parts : ∀ entry ∈ entries, IsPlain entry.2) :
      IsPlain (.mapping entries)

/-- The texts of the keys in order, each once. -/
def names (entries : List (Key × Datum)) : List String :=
  (entries.filterMap fun entry => entry.1.written.toOption).eraseDups

/-- The data that a name stands for in a mapping: the last ones whose key has this text. -/
def lastNamed? (name : String) (entries : List (Key × Datum)) : Option Datum :=
  (entries.reverse.find? fun entry => entry.1.written.toOption = some name).map (·.2)

/--
Data and the value they are made into. The elements of a row keep their number and order, and
the entries of a mapping the order in which their names come up.
-/
inductive IsMadeInto : Datum → Value → Prop
  | scalar {datum : Datum} {form : Value}
      (isScalar : datum.isScalar = true)
      (same : ofValue form = datum) :
      IsMadeInto datum form
  | other {s : String} : IsMadeInto (.other (.ok s)) (.text s)
  | row {datum : Datum} {elements : List Datum} {forms : List Value}
      (isRow : datum.row? = some elements)
      (sameNumber : forms.length = elements.length)
      (parts :
        ∀ (place : Nat) (element : Datum) (form : Value),
          elements[place]? = some element → forms[place]? = some form → IsMadeInto element form) :
      IsMadeInto datum (.list forms)
  | mapping {entries : List (Key × Datum)} {forms : List (Value × Value)}
      (sameNames : forms.map (·.1) = (names entries).map .text)
      (parts :
        ∀ (name : String) (datum : Datum) (form : Value),
          lastNamed? name entries = some datum → Value.field? name forms = some form →
            IsMadeInto datum form) :
      IsMadeInto (.mapping entries) (.mapping forms)

/-! ## Plain forms by kind -/

section Kinds

variable {datum : Datum} {elements : List Datum} {entries : List (Key × Datum)} {form : Value}

theorem ofValues_eq_map
    (values : List Value) :
    ofValues values = values.map ofValue := by
  induction values with
  | nil =>
      rfl
  | cons first rest inductionHypothesis =>
      rw [ofValues, inductionHypothesis, List.map_cons]

theorem ofEntries_ofNamed
    (named : List (String × Value)) :
    ofEntries (Value.ofNamed named) = named.map fun item => (.text item.1, ofValue item.2) := by
  induction named with
  | nil =>
      rfl
  | cons first rest inductionHypothesis =>
      rw [Value.ofNamed, List.map_cons, ofEntries, ← Value.ofNamed, inductionHypothesis]
      rfl

/-- A scalar is made into the value that it is. -/
theorem exists_plain_of_scalar
    (isScalar : datum.isScalar = true) :
    ∃ form, datum.plain = .ok form ∧ ofValue form = datum := by
  cases datum with
  | null | bool _ | int _ | real _ | text _ => exact ⟨_, rfl, rfl⟩
  | _ => cases isScalar

theorem plainElements_eq_mapM
    (elements : List Datum) :
    plainElements elements = elements.mapM plain := by
  induction elements with
  | nil =>
      rfl
  | cons first rest inductionHypothesis =>
      rw [plainElements, inductionHypothesis, List.mapM_cons]

theorem plain_row_eq_ok_iff
    (isRow : datum.row? = some elements) :
    datum.plain = .ok form ↔
      ∃ forms, List.Forall₂ (fun element form => element.plain = .ok form) elements forms ∧
        .list forms = form := by
  have isList : datum.plain = (plainElements elements).map .list := by
    cases datum with
    | list _ | tuple _ | set _ =>
        cases isRow
        rw [plain]
    | _ => cases isRow
  rw [isList, Outcome.map_eq_ok_iff, plainElements_eq_mapM]
  simp only [Outcome.mapM_eq_ok_iff]

/-- An entry is made into the text of its key and the plain form of its data. -/
theorem plainEntries_eq_ok_iff
    {forms : List (Value × Value)} :
    plainEntries entries = .ok forms ↔
      ∃ named,
        List.Forall₂
          (fun entry item => entry.1.written = .ok item.1 ∧ entry.2.plain = .ok item.2)
          entries named ∧
        Value.ofNamed named = forms := by
  induction entries generalizing forms with
  | nil =>
      simp [plainEntries, Value.ofNamed, eq_comm]
  | cons entry entries inductionHypothesis =>
      obtain ⟨key, datum⟩ := entry
      simp only [plainEntries, Outcome.bind_eq_ok_iff, inductionHypothesis,
        List.forall₂_cons_left_iff]
      constructor
      · rintro ⟨name, isName, value, isValue, _, ⟨named, later, rfl⟩, isForms⟩
        exact ⟨(name, value) :: named, ⟨_, _, ⟨isName, isValue⟩, later, rfl⟩,
          Except.ok.inj isForms⟩
      · rintro ⟨_, ⟨⟨name, value⟩, named, ⟨isName, isValue⟩, later, rfl⟩, rfl⟩
        exact ⟨name, isName, value, isValue, _, ⟨named, later, rfl⟩, rfl⟩

theorem plain_mapping_eq_ok_iff :
    (mapping entries).plain = .ok form ↔
      ∃ named,
        List.Forall₂
          (fun entry item => entry.1.written = .ok item.1 ∧ entry.2.plain = .ok item.2)
          entries named ∧
        .mapping (Value.update [] (Value.ofNamed named)) = form := by
  rw [plain, Outcome.map_eq_ok_iff]
  constructor
  · rintro ⟨_, isForms, rfl⟩
    obtain ⟨named, parts, rfl⟩ := plainEntries_eq_ok_iff.mp isForms
    exact ⟨named, parts, rfl⟩
  · rintro ⟨named, parts, rfl⟩
    exact ⟨_, plainEntries_eq_ok_iff.mpr ⟨named, parts, rfl⟩, rfl⟩

end Kinds

/-! ## Names of entries -/

section Names

variable {entries : List (Key × Datum)} {named : List (String × Value)}

/-- Keys that can be written have the names of what they are made into. -/
theorem names_eq_of_written
    (written : List.Forall₂ (fun entry item => entry.1.written = .ok item.1) entries named) :
    names entries = (named.map (·.1)).eraseDups := by
  rw [names]
  congr 1
  induction written with
  | nil =>
      rfl
  | cons isName _ inductionHypothesis =>
      rw [List.filterMap_cons, isName, List.map_cons, ← inductionHypothesis]
      rfl

/-- The last data of a name are made into the last value of the name. -/
theorem exists_lookup_of_lastNamed?
    (related : Datum → Value → Prop)
    (parts :
      List.Forall₂ (fun entry item => entry.1.written = .ok item.1 ∧ related entry.2 item.2)
        entries named)
    {name : String}
    {datum : Datum}
    (isLast : lastNamed? name entries = some datum) :
    ∃ entry ∈ entries, entry.2 = datum ∧
      ∃ value, named.reverse.lookup name = some value ∧ related datum value := by
  have reversed := List.rel_reverse parts
  obtain ⟨entry, isFound, rfl⟩ := Option.map_eq_some_iff.mp isLast
  refine ⟨entry, List.mem_reverse.mp (List.mem_of_find?_eq_some isFound), rfl, ?_⟩
  clear parts isLast
  generalize entries.reverse = entries, named.reverse = named at reversed isFound
  induction reversed with
  | nil =>
      cases isFound
  | @cons first item _ _ isPart _ inductionHypothesis =>
      obtain ⟨key, value⟩ := item
      obtain ⟨isName, isRelated⟩ := isPart
      by_cases isKey : key = name
      · subst isKey
        rw [List.find?_cons_of_pos (by simp [isName, Except.toOption])] at isFound
        cases isFound
        exact ⟨value, List.lookup_cons_self, isRelated⟩
      · rw [List.find?_cons_of_neg (by simp [isName, Except.toOption, isKey])] at isFound
        have isOther : (name == key) = false := beq_false_of_ne (Ne.symm isKey)
        rw [List.lookup_cons, isOther]
        exact inductionHypothesis isFound

end Names

/-! ## Plain forms at every depth -/

section Forms

variable {datum : Datum} {form : Value}

/-- What is made is plain, and it is made into itself. -/
theorem isPlain_and_settled
    (isForm : datum.plain = .ok form) :
    (ofValue form).IsPlain ∧ (ofValue form).plain = .ok form := by
  induction datum using kind_induction generalizing form with
  | scalar datum isScalar =>
      obtain ⟨form', isForm', isDatum⟩ := exists_plain_of_scalar isScalar
      obtain rfl := Except.ok.inj (isForm'.symm.trans isForm)
      rw [isDatum]
      exact ⟨.scalar isScalar, isForm⟩
  | other written =>
      obtain ⟨s, _, rfl⟩ := Outcome.map_eq_ok_iff.mp isForm
      exact ⟨.scalar rfl, rfl⟩
  | row datum elements isRow inductionHypothesis =>
      obtain ⟨forms, parts, rfl⟩ := (plain_row_eq_ok_iff isRow).mp isForm
      have each :
          ∀ part ∈ forms, (ofValue part).IsPlain ∧ (ofValue part).plain = .ok part := by
        intro part member
        obtain ⟨element, isElement, isPart⟩ := Outcome.exists_related_of_mem parts.flip member
        exact inductionHypothesis element isElement isPart
      rw [ofValue, ofValues_eq_map]
      constructor
      · exact .list (List.forall_mem_map.mpr fun part member => (each part member).1)
      · refine (plain_row_eq_ok_iff rfl).mpr ⟨forms, ?_, rfl⟩
        rw [List.forall₂_map_left_iff, List.forall₂_same]
        exact fun part member => (each part member).2
  | mapping entries inductionHypothesis =>
      obtain ⟨named, parts, rfl⟩ := plain_mapping_eq_ok_iff.mp isForm
      have each :
          ∀ item ∈ named, (ofValue item.2).IsPlain ∧ (ofValue item.2).plain = .ok item.2 := by
        intro item member
        obtain ⟨entry, isEntry, _, isPart⟩ := Outcome.exists_related_of_mem parts.flip member
        exact inductionHypothesis entry isEntry isPart
      obtain ⟨distinct, isDistinct, sameNames, eachDistinct⟩ :=
        Value.exists_distinct_named (fun part => (ofValue part).IsPlain ∧
          (ofValue part).plain = .ok part) each
      have nodup : (distinct.map (·.1)).Nodup := sameNames ▸ Value.nodup_eraseDups _
      rw [isDistinct, ofValue, ofEntries_ofNamed]
      constructor
      · refine .mapping (by rw [List.map_map, List.map_map]; rfl) nodup ?_
        exact List.forall_mem_map.mpr fun item member => (eachDistinct item member).1
      · refine plain_mapping_eq_ok_iff.mpr ⟨distinct, ?_, ?_⟩
        · rw [List.forall₂_map_left_iff, List.forall₂_same]
          exact fun item member => ⟨rfl, (eachDistinct item member).2⟩
        · rw [Value.update_ofNamed_eq_self nodup]

/-- Entries with texts for keys are those of the values that they are. -/
theorem exists_named_of_entries
    {names : List String}
    {entries : List (Key × Datum)}
    (keys : entries.map (·.1) = names.map .text)
    (areValues :
      ∀ entry ∈ entries, ∃ form, entry.2.plain = .ok form ∧ ofValue form = entry.2) :
    ∃ named,
      entries = ofEntries (Value.ofNamed named) ∧
        named.map (·.1) = names ∧
          ∀ item ∈ named, (ofValue item.2).plain = .ok item.2 := by
  induction entries generalizing names with
  | nil =>
      cases names with
      | nil => exact ⟨[], rfl, rfl, nofun⟩
      | cons name names => cases keys
  | cons entry entries inductionHypothesis =>
      cases names with
      | nil => cases keys
      | cons name names =>
          obtain ⟨isName, laterKeys⟩ := List.cons.inj keys
          obtain ⟨⟨form, isForm, isValue⟩, later⟩ := List.forall_mem_cons.mp areValues
          obtain ⟨named, rfl, rfl, areForms⟩ := inductionHypothesis laterKeys later
          obtain ⟨key, datum⟩ := entry
          cases isName
          cases isValue
          exact ⟨(name, form) :: named, rfl, rfl, List.forall_mem_cons.mpr ⟨isForm, areForms⟩⟩

/-- Plain data are made into the value that they are. -/
theorem IsPlain.exists_plain
    (isPlain : datum.IsPlain) :
    ∃ form, datum.plain = .ok form ∧ ofValue form = datum := by
  induction isPlain with
  | scalar isScalar =>
      exact exists_plain_of_scalar isScalar
  | @list elements _ inductionHypothesis =>
      choose! form isForm isElement using inductionHypothesis
      refine ⟨.list (elements.map form), (plain_row_eq_ok_iff rfl).mpr ⟨_, ?_, rfl⟩, ?_⟩
      · rw [List.forall₂_map_right_iff, List.forall₂_same]
        exact isForm
      · rw [ofValue, ofValues_eq_map, List.map_map]
        exact congrArg Datum.list ((List.map_congr_left isElement).trans (List.map_id elements))
  | @mapping names entries keys distinct _ inductionHypothesis =>
      obtain ⟨named, rfl, rfl, areForms⟩ := exists_named_of_entries keys inductionHypothesis
      refine ⟨.mapping (Value.ofNamed named), ?_, rfl⟩
      refine plain_mapping_eq_ok_iff.mpr ⟨named, ?_, ?_⟩
      · rw [ofEntries_ofNamed, List.forall₂_map_left_iff, List.forall₂_same]
        exact fun item member => ⟨rfl, areForms item member⟩
      · rw [Value.update_ofNamed_eq_self distinct]

/-- Data are made into their plain form. -/
theorem isMadeInto_of_plain
    (isForm : datum.plain = .ok form) :
    IsMadeInto datum form := by
  induction datum using kind_induction generalizing form with
  | scalar datum isScalar =>
      obtain ⟨form', isForm', isDatum⟩ := exists_plain_of_scalar isScalar
      obtain rfl := Except.ok.inj (isForm'.symm.trans isForm)
      exact .scalar isScalar isDatum
  | other written =>
      obtain ⟨s, rfl, rfl⟩ := Outcome.map_eq_ok_iff.mp isForm
      exact .other
  | row datum elements isRow inductionHypothesis =>
      obtain ⟨forms, parts, rfl⟩ := (plain_row_eq_ok_iff isRow).mp isForm
      refine .row isRow parts.length_eq.symm fun place element part isElement isPart => ?_
      obtain ⟨part', isPart', isForm'⟩ := Outcome.exists_getElem?_of_forall₂ parts isElement
      obtain rfl := Option.some.inj (isPart'.symm.trans isPart)
      exact inductionHypothesis element (List.mem_of_getElem? isElement) isForm'
  | mapping entries inductionHypothesis =>
      obtain ⟨named, parts, rfl⟩ := plain_mapping_eq_ok_iff.mp isForm
      apply IsMadeInto.mapping
      case sameNames =>
        rw [Value.map_fst_update_ofNamed, names_eq_of_written (parts.imp fun _ _ part => part.1)]
      case parts =>
        intro name datum part isLast isPart
        obtain ⟨entry, isEntry, rfl, part', isNamed, isForm'⟩ :=
          exists_lookup_of_lastNamed? (fun datum form => datum.plain = .ok form) parts isLast
        rw [Value.field?_update_ofNamed, isNamed, Option.some_or] at isPart
        obtain rfl := Option.some.inj isPart
        exact inductionHypothesis entry isEntry isForm'

/-- There is a plain form exactly if all keys and all objects of other kinds can be written. -/
theorem exists_plain_iff_canBeWritten :
    (∃ form, datum.plain = .ok form) ↔ datum.CanBeWritten := by
  constructor
  · rintro ⟨form, isForm⟩
    induction datum using kind_induction generalizing form with
    | scalar datum isScalar =>
        exact .scalar isScalar
    | other written =>
        obtain ⟨s, rfl, _⟩ := Outcome.map_eq_ok_iff.mp isForm
        exact .other
    | row datum elements isRow inductionHypothesis =>
        obtain ⟨forms, parts, _⟩ := (plain_row_eq_ok_iff isRow).mp isForm
        refine .row isRow fun element isElement => ?_
        obtain ⟨part, _, isPart⟩ := Outcome.exists_related_of_mem parts isElement
        exact inductionHypothesis element isElement part isPart
    | mapping entries inductionHypothesis =>
        obtain ⟨named, parts, _⟩ := plain_mapping_eq_ok_iff.mp isForm
        apply CanBeWritten.mapping
        case keys =>
          intro entry isEntry
          obtain ⟨item, _, isName, _⟩ := Outcome.exists_related_of_mem parts isEntry
          exact ⟨item.1, isName⟩
        case parts =>
          intro entry isEntry
          obtain ⟨item, _, _, isPart⟩ := Outcome.exists_related_of_mem parts isEntry
          exact inductionHypothesis entry isEntry item.2 isPart
  · intro canBeWritten
    induction canBeWritten with
    | scalar isScalar =>
        obtain ⟨form, isForm, _⟩ := exists_plain_of_scalar isScalar
        exact ⟨form, isForm⟩
    | other =>
        exact ⟨_, rfl⟩
    | @row _ elements isRow _ inductionHypothesis =>
        choose! form isForm using inductionHypothesis
        refine ⟨_, (plain_row_eq_ok_iff isRow).mpr ⟨elements.map form, ?_, rfl⟩⟩
        rw [List.forall₂_map_right_iff, List.forall₂_same]
        exact isForm
    | @mapping entries keys _ inductionHypothesis =>
        choose! name isName using keys
        choose! form isForm using inductionHypothesis
        refine ⟨_, plain_mapping_eq_ok_iff.mpr
          ⟨entries.map fun entry => (name entry, form entry), ?_, rfl⟩⟩
        rw [List.forall₂_map_right_iff, List.forall₂_same]
        exact fun entry isEntry => ⟨isName entry isEntry, isForm entry isEntry⟩

/-- A form of data that is plain at every depth and keeps the parts of the data. -/
structure IsPlainFormOf (form : Value) (datum : Datum) : Prop where
  isPlain : (ofValue form).IsPlain
  keepsParts : IsMadeInto datum form
  settled : (ofValue form).plain = .ok form
  unchanged : ofValue form = datum ↔ datum.IsPlain

theorem isPlainFormOf_of_plain
    (isForm : datum.plain = .ok form) :
    IsPlainFormOf form datum := by
  obtain ⟨isPlain, settled⟩ := isPlain_and_settled isForm
  refine ⟨isPlain, isMadeInto_of_plain isForm, settled, ?_⟩
  constructor
  · rintro rfl
    exact isPlain
  · intro isPlainAlready
    obtain ⟨form', isForm', isDatum⟩ := isPlainAlready.exists_plain
    rw [← isDatum, ← Except.ok.inj (isForm'.symm.trans isForm)]

end Forms

end Datum

end ProseRules
