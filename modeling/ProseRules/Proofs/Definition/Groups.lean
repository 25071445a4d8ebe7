import ProseRules.Proofs.Definition.Origins
import ProseRules.Proofs.Rule.Parts

namespace ProseRules

/-!
# Groups as a way to write several definitions

A member of a group stands for a definition of its own: it has the keys of the group with those
of the member set over them, and the id of the group. A document in which each group is replaced
by the definitions of its members is loaded alike, apart from the numbers of the members.
-/

/-- The rule with another sub-id. -/
def Rule.withSubId (rule : Rule) (subId : Value) : Rule :=
  { rule with subId := subId }

namespace Loaded

/-- The rules with another sub-id. -/
def withSubId (loaded : Loaded) (subId : Value) : Loaded :=
  ⟨loaded.rules.map (·.withSubId subId), loaded.notices⟩

theorem concat_cons
    (first : Loaded)
    (rest : List Loaded) :
    concat (first :: rest) = first.append (concat rest) :=
  rfl

theorem concat_append
    (first second : List Loaded) :
    concat (first ++ second) = (concat first).append (concat second) := by
  induction first with
  | nil =>
      rfl
  | cons part first inductionHypothesis =>
      rw [List.cons_append, concat_cons, concat_cons, inductionHypothesis]
      simp [append]

theorem concat_flatten
    (rows : List (List Loaded)) :
    concat rows.flatten = concat (rows.map concat) := by
  induction rows with
  | nil =>
      rfl
  | cons row rows inductionHypothesis =>
      rw [List.flatten_cons, concat_append, inductionHypothesis, List.map_cons, concat_cons]

theorem concat_singleton
    (loaded : Loaded) :
    concat [loaded] = loaded := by
  simp [concat, append, none]

end Loaded

namespace Rule

variable (parts : RuleParts) (subId : Value)

/-- The sub-id among the parts is that of the rule and decides nothing else. -/
theorem ofParts_withSubId :
    Rule.ofParts { parts with subId := subId } =
      (Rule.ofParts parts).map (·.withSubId subId) := by
  simp only [ofParts_eq, Outcome.map_bind]
  rfl

end Rule

namespace RuleEntries

section SubId

variable (context : DefinitionContext) (place : DefinitionPlace) (subId : Value)

theorem commonParts_withSubId
    (message : Value)
    (entries : RuleEntries) :
    commonParts context place subId message entries =
      (commonParts context place .null message entries).map fun parts =>
        { parts with subId := subId } := by
  simp only [commonParts, Outcome.map_bind]
  rfl

theorem expressionRule_withSubId
    (parts : RuleParts)
    (expression : Value)
    (entries : RuleEntries) :
    expressionRule { parts with subId := subId } expression entries =
      (expressionRule parts expression entries).map (·.withSubId subId) := by
  simp only [expressionRule, Outcome.map_bind, ← Rule.ofParts_withSubId]

theorem patternRules_withSubId
    (parts : RuleParts)
    (pattern : Value) :
    patternRules context place { parts with subId := subId } pattern =
      (patternRules context place parts pattern).map (List.map (·.withSubId subId)) := by
  simp only [patternRules, Outcome.map_bind]
  refine congrArg _ (funext fun alternatives => ?_)
  let partsOf (tokens : List Token) : RuleParts :=
    { parts with tokens := some tokens, isAlternative := decide (1 < alternatives.length) }
  exact
    Outcome.mapM_eq_map_mapM (fun tokens => Rule.ofParts_withSubId (partsOf tokens) subId)
      alternatives

/-- The rules of a definition have the sub-id under which it is read and are otherwise alike. -/
theorem rules_withSubId
    (id : Value)
    (entries : RuleEntries) :
    rules context id subId entries =
      (rules context id .null entries).map (·.withSubId subId) := by
  simp only [rules, Outcome.map_bind, commonParts_withSubId context _ subId]
  refine congrArg _ (funext fun _ => congrArg _ (funext fun message => ?_))
  cases commonParts context ⟨context.source, id⟩ .null message entries with
  | error failure =>
      rfl
  | ok parts =>
      simp only [Except.map, bind, Except.bind]
      split
      · rfl
      · rename_i expression _ _
        rw [expressionRule_withSubId]
        cases expressionRule parts expression entries <;> rfl
      · rw [Rule.ofParts_withSubId]
        cases id.shown <;> cases Rule.ofParts parts <;> rfl
      · rw [Rule.ofParts_withSubId]
        cases id.shown <;> cases Rule.ofParts parts <;> rfl
      · rename_i pattern _ _ _
        rw [patternRules_withSubId]
        cases patternRules context ⟨context.source, id⟩ parts pattern <;> rfl

end SubId

/-- Two definitions have the same keys, and the same values except for their ids. -/
structure AgreesApartFromId (entries other : RuleEntries) : Prop where
  keys : other.map (·.1) = entries.map (·.1)
  fields : ∀ name, name ≠ "id" → Value.field? name other = Value.field? name entries

/-- Rules do not depend on the id that their definition has itself. -/
theorem AgreesApartFromId.rules_eq
    {entries other : RuleEntries}
    (agrees : entries.AgreesApartFromId other)
    (context : DefinitionContext)
    (id subId : Value) :
    rules context id subId other = rules context id subId entries := by
  simp only [rules, DefinitionPlace.requireKnown, Value.unknownKeys, message, commonParts,
    antipatterns, expressionRule, Value.fieldOr, agrees.keys, agrees.fields "message" (by decide),
    agrees.fields "mark" (by decide), agrees.fields "antipatterns" (by decide),
    agrees.fields "description" (by decide), agrees.fields "short_message" (by decide),
    agrees.fields "suggestions_out_msg" (by decide), agrees.fields "regex" (by decide),
    agrees.fields "regex_mark" (by decide), agrees.fields "pattern" (by decide)]
  rfl

theorem field?_inherited_of_ne
    {name : String}
    (isOther : name ≠ "rules")
    (entries : RuleEntries) :
    Value.field? name entries.inherited = Value.field? name entries := by
  unfold inherited Value.field? Value.lookup?
  rw [List.find?_filter]
  refine congrArg (fun found => (List.find? found entries).map (·.2)) (funext fun entry => ?_)
  by_cases isName : entry.1 = .text name
  · simp [isName, isOther]
  · simp [Bool.eq_false_iff.mpr (mt Value.equals_text_iff.mp isName)]

/-- The members of a group take over no list of members. -/
theorem field?_rules_inherited
    (entries : RuleEntries) :
    Value.field? "rules" entries.inherited = none := by
  unfold inherited Value.field? Value.lookup?
  rw [Option.map_eq_none_iff, List.find?_eq_none]
  intro entry member
  simpa using (List.mem_filter.mp member).2

/-- What a member of a group stands for: the keys of the group, its own keys and the group's id. -/
def standalone (id : Value) (group own : RuleEntries) : RuleEntries :=
  Value.insert (.text "id") id (Value.update group.inherited own)

section Member

variable {context : DefinitionContext} {id : Value} {group own : RuleEntries}

theorem field?_rules_standalone
    (noGroup : Value.field? "rules" own = none) :
    Value.field? "rules" (standalone id group own) = none := by
  rw [standalone, Value.field?_insert_of_ne (by simp)]
  exact Value.field?_update_eq_none (field?_rules_inherited group) noGroup

/-- What a member stands for has what its rules are read from, apart from an id of its own. -/
theorem agreesApartFromId_standalone
    (hasId : Value.field? "id" group = some id) :
    AgreesApartFromId (Value.update group.inherited own) (standalone id group own) where
  keys := by
    refine Value.map_fst_insert (Value.field?_update_ne_none ?_)
    rw [field?_inherited_of_ne (by decide), hasId]
    exact Option.some_ne_none _
  fields name notId := Value.field?_insert_of_ne (by simpa using notId.symm)

/-- The rules of a member are those of what it stands for, with its number. -/
theorem memberRules_eq
    (hasId : Value.field? "id" group = some id)
    (noGroup : Value.field? "rules" own = none)
    (number : Nat) :
    memberRules context id group number (.mapping own) =
      (allRules context (.mapping (standalone id group own))).map
        (·.withSubId (.text (toString number))) := by
  have sameId : Value.field? "id" (standalone id group own) = some id := Value.field?_insert_self
  simp only [allRules, sameId, Value.fieldOr, field?_rules_standalone noGroup, Option.getD_none]
  rw [(agreesApartFromId_standalone hasId).rules_eq, ← rules_withSubId]
  rfl

end Member

end RuleEntries

/-- A definition is a group whose members can be read. -/
structure IsGroup (definition id : Value) (group : RuleEntries) (members : List Value) : Prop where
  isMapping : definition = .mapping group
  hasId : Value.field? "id" group = some id
  notAlone : Value.fieldOr "rules" .null group ≠ .null
  areMembers : (Value.fieldOr "rules" .null group).elements = .ok members

/-- The members of a group are mappings and no groups themselves. -/
def AreMembers (members : List Value) : Prop :=
  ∀ member ∈ members, ∃ own, member = .mapping own ∧ Value.field? "rules" own = none

/-- A definition on its own with the sub-id that its rules have as those of a member. -/
structure NumberedDefinition where
  subId : Value
  definition : Value

/-- What a member of a group stands for, with its number. -/
def numberedMember (id : Value) (group : RuleEntries) (member : Value) (number : Nat) :
    NumberedDefinition :=
  match member with
  | .mapping own => ⟨.text (toString number), .mapping (RuleEntries.standalone id group own)⟩
  | member => ⟨.text (toString number), member⟩

/-- What a definition stands for: the members of a group one by one, or itself. -/
def numberedDefinitions (definition : Value) : List NumberedDefinition :=
  match definition with
  | .mapping entries =>
      match Value.field? "id" entries, Value.fieldOr "rules" .null entries with
      | none, _ | some _, .null => [⟨.null, definition⟩]
      | some id, group =>
          match group.elements with
          | .ok members =>
              members.zipIdx.map fun (member, index) => numberedMember id entries member (index + 1)
          | .error _ => [⟨.null, definition⟩]
  | definition => [⟨.null, definition⟩]

/-- The numbers of rules decide nothing else of them. -/
theorem map_rules_concat_withSubId
    {β : Type}
    {field : Rule → β}
    (sameField : ∀ rule subId, field (rule.withSubId subId) = field rule)
    {numbered : List NumberedDefinition}
    {parts : List Loaded}
    (sameLength : numbered.length = parts.length) :
    (Loaded.concat
        (List.zipWith (fun one part => part.withSubId one.subId) numbered parts)).rules.map field =
      (Loaded.concat parts).rules.map field := by
  induction parts generalizing numbered with
  | nil =>
      rw [List.zipWith_nil_right]
  | cons part parts inductionHypothesis =>
      cases numbered with
      | nil =>
          cases sameLength
      | cons one numbered =>
          have later := inductionHypothesis (Nat.succ.inj sameLength)
          have first : (part.withSubId one.subId).rules.map field = part.rules.map field := by
            rw [Loaded.withSubId, List.map_map]
            exact List.map_congr_left fun rule _ => sameField rule one.subId
          rw [List.zipWith_cons_cons, Loaded.concat_cons, Loaded.concat_cons, Loaded.append,
            Loaded.append, List.map_append, List.map_append, first, later]

section Definition

variable {context : DefinitionContext} {definition id : Value} {group : RuleEntries}
variable {members : List Value}

theorem numberedDefinitions_of_isGroup
    (isGroup : IsGroup definition id group members) :
    numberedDefinitions definition =
      members.zipIdx.map fun entry => numberedMember id group entry.1 (entry.2 + 1) := by
  obtain ⟨rfl, hasId, notAlone, areMembers⟩ := isGroup
  simp [numberedDefinitions, hasId, areMembers]

theorem allRules_of_isGroup
    (isGroup : IsGroup definition id group members) :
    RuleEntries.allRules context definition =
      (members.zipIdx.mapM fun entry =>
        RuleEntries.memberRules context id group (entry.2 + 1) entry.1).map Loaded.concat := by
  obtain ⟨rfl, hasId, notAlone, areMembers⟩ := isGroup
  simp only [RuleEntries.allRules, hasId, areMembers]
  exact bind_pure_comp (m := Except Failure) Loaded.concat _

/-- A definition that is no group stands for itself, and its rules have no sub-id. -/
theorem numberedDefinitions_allRules_of_alone
    (isAlone : ∀ id group members, ¬IsGroup definition id group members) :
    numberedDefinitions definition = [⟨.null, definition⟩] ∧
      ∀ context,
        RuleEntries.allRules context definition =
          (RuleEntries.allRules context definition).map (·.withSubId .null) := by
  cases definition with
  | mapping entries =>
      simp only [numberedDefinitions, RuleEntries.allRules]
      cases hasId : Value.field? "id" entries with
      | none =>
          exact ⟨rfl, fun _ => rfl⟩
      | some id =>
          by_cases alone : Value.fieldOr "rules" .null entries = .null
          · simp only [alone]
            exact ⟨trivial, fun context => RuleEntries.rules_withSubId context .null id entries⟩
          · cases areMembers : (Value.fieldOr "rules" .null entries).elements with
            | ok members =>
                exact (isAlone id entries members ⟨rfl, hasId, alone, areMembers⟩).elim
            | error failure =>
                simp only [areMembers]
                exact ⟨trivial, fun _ => rfl⟩
  | _ =>
      exact ⟨rfl, fun _ => rfl⟩

/-- The rules of a definition that is no group have no sub-id. -/
theorem subId_of_alone
    (isAlone : ∀ id group members, ¬IsGroup definition id group members)
    {loaded : Loaded}
    (reads : RuleEntries.allRules context definition = .ok loaded)
    {rule : Rule}
    (member : rule ∈ loaded.rules) :
    rule.subId = .null := by
  have noSubId := (numberedDefinitions_allRules_of_alone isAlone).2 context
  rw [reads] at noSubId
  have sameLoaded : loaded = loaded.withSubId .null := Except.ok.inj noSubId
  rw [sameLoaded] at member
  obtain ⟨_, _, rfl⟩ := List.mem_map.mp member
  rfl

/-- What the members of a group stand for are no groups. -/
theorem alone_of_mem_numberedDefinitions
    (haveMembers : ∀ id group members, IsGroup definition id group members → AreMembers members)
    {numbered : NumberedDefinition}
    (member : numbered ∈ numberedDefinitions definition) :
    ∀ id group members, ¬IsGroup numbered.definition id group members := by
  by_cases opens : ∃ id group members, IsGroup definition id group members
  · obtain ⟨id, group, members, isGroup⟩ := opens
    rw [numberedDefinitions_of_isGroup isGroup, List.mem_map] at member
    obtain ⟨entry, isEntry, rfl⟩ := member
    obtain ⟨own, isOwn, noGroup⟩ :=
      haveMembers _ _ _ isGroup entry.1 (List.fst_mem_of_mem_zipIdx isEntry)
    rintro innerId inner innerMembers ⟨isMapping, _, notAlone, _⟩
    rw [isOwn] at isMapping
    cases isMapping
    rw [Value.fieldOr, RuleEntries.field?_rules_standalone noGroup] at notAlone
    exact notAlone rfl
  · push Not at opens
    rw [(numberedDefinitions_allRules_of_alone opens).1, List.mem_singleton] at member
    rwa [member]

/-- The rules of a definition are those of what it stands for, with their numbers. -/
theorem allRules_eq
    (context : DefinitionContext)
    (haveMembers :
      ∀ id group members, IsGroup definition id group members → AreMembers members) :
    RuleEntries.allRules context definition =
      ((numberedDefinitions definition).mapM fun numbered =>
        (RuleEntries.allRules context numbered.definition).map
          (·.withSubId numbered.subId)).map Loaded.concat := by
  by_cases opens : ∃ id group members, IsGroup definition id group members
  · obtain ⟨id, group, members, isGroup⟩ := opens
    rw [allRules_of_isGroup isGroup, numberedDefinitions_of_isGroup isGroup, List.mapM_map]
    refine congrArg (Except.map Loaded.concat) (Outcome.mapM_congr ?_)
    rintro ⟨member, index⟩ isEntry
    obtain ⟨own, rfl, noGroup⟩ :=
      haveMembers _ _ _ isGroup member (List.fst_mem_of_mem_zipIdx isEntry)
    exact RuleEntries.memberRules_eq isGroup.hasId noGroup (index + 1)
  · push Not at opens
    obtain ⟨standsForItself, noSubId⟩ := numberedDefinitions_allRules_of_alone opens
    rw [standsForItself, List.mapM_cons, ← noSubId]
    cases RuleEntries.allRules context definition with
    | error failure =>
        rfl
    | ok loaded =>
        exact congrArg Except.ok (Loaded.concat_singleton loaded).symm

end Definition

/-- The rules of several definitions are those of what these stand for, with their numbers. -/
theorem mapM_allRules_eq
    (context : DefinitionContext)
    {definitions : List Value}
    (haveMembers :
      ∀ definition ∈ definitions,
        ∀ id group members, IsGroup definition id group members → AreMembers members) :
    (definitions.mapM (RuleEntries.allRules context)).map Loaded.concat =
      ((definitions.flatMap numberedDefinitions).mapM fun numbered =>
        RuleEntries.allRules context numbered.definition).map fun parts =>
          .concat
            (List.zipWith (fun numbered part => part.withSubId numbered.subId)
              (definitions.flatMap numberedDefinitions) parts) := by
  have expanded :
      definitions.mapM (RuleEntries.allRules context) =
        (definitions.mapM fun definition =>
          (numberedDefinitions definition).mapM fun numbered =>
            (RuleEntries.allRules context numbered.definition).map
              (·.withSubId numbered.subId)).map (List.map Loaded.concat) := by
    rw [← Outcome.mapM_eq_map_mapM fun _ => rfl]
    exact Outcome.mapM_congr fun definition member =>
      allRules_eq context (haveMembers definition member)
  calc
    (definitions.mapM (RuleEntries.allRules context)).map Loaded.concat
        = ((definitions.flatMap numberedDefinitions).mapM fun numbered =>
            (RuleEntries.allRules context numbered.definition).map
              (·.withSubId numbered.subId)).map Loaded.concat := by
          rw [expanded, Outcome.mapM_flatMap]
          cases definitions.mapM fun definition =>
            (numberedDefinitions definition).mapM fun numbered =>
              (RuleEntries.allRules context numbered.definition).map
                (·.withSubId numbered.subId) with
          | error failure =>
              rfl
          | ok rows =>
              exact congrArg Except.ok (Loaded.concat_flatten rows).symm
    _ = _ := by
          rw [Outcome.mapM_map_eq]
          cases (definitions.flatMap numberedDefinitions).mapM fun numbered =>
            RuleEntries.allRules context numbered.definition <;> rfl

section Document

variable {source language : String} {document : List (Value × Value)}

/-- The definitions of a document, with each group replaced by what its members stand for. -/
def numberedDefinitionsOf (document : List (Value × Value)) :
    Except Failure (List NumberedDefinition) := do
  let definitions ← (Value.fieldOr "rules" .null document).elementsIfAny
  return definitions.flatMap numberedDefinitions

/-- The document with each group replaced in its place by what its members stand for. -/
def ungrouped (document : List (Value × Value)) : List (Value × Value) :=
  match numberedDefinitionsOf document with
  | .ok numbered =>
      Value.insert (.text "rules") (.list (numbered.map (·.definition))) document
  | .error _ => document

/-- The members of every group of a document are mappings and no groups themselves. -/
def GroupsHoldMappings (document : List (Value × Value)) : Prop :=
  ∀ definitions,
    (Value.fieldOr "rules" .null document).elementsIfAny = .ok definitions →
      ∀ definition ∈ definitions,
        ∀ id group members, IsGroup definition id group members → AreMembers members

theorem rulesOfEntries_of_definitions
    {context : DefinitionContext}
    (isContext : DefinitionContext.ofEntries source language document = .ok context)
    {definitions : List Value}
    (areDefinitions : (Value.fieldOr "rules" .null document).elementsIfAny = .ok definitions) :
    rulesOfEntries source language document =
      (definitions.mapM (RuleEntries.allRules context)).map Loaded.concat := by
  unfold rulesOfEntries
  rw [isContext, areDefinitions]
  exact bind_pure_comp (m := Except Failure) Loaded.concat _

/-- Replacing the groups of a document changes nothing else of it. -/
theorem ofEntries_ungrouped :
    DefinitionContext.ofEntries source language (ungrouped document) =
      DefinitionContext.ofEntries source language document := by
  unfold ungrouped
  split
  · simp only [DefinitionContext.ofEntries, Value.fieldOr,
      Value.field?_insert_of_ne (show Value.text "rules" ≠ .text "language" by simp),
      Value.field?_insert_of_ne (show Value.text "rules" ≠ .text "phrases" by simp)]
    rfl
  · rfl

theorem elementsIfAny_ungrouped
    {numbered : List NumberedDefinition}
    (areNumbered : numberedDefinitionsOf document = .ok numbered) :
    (Value.fieldOr "rules" .null (ungrouped document)).elementsIfAny =
      .ok (numbered.map (·.definition)) := by
  rw [ungrouped, areNumbered, Value.fieldOr, Value.field?_insert_self, Option.getD_some]
  cases numbered <;> rfl

/-- Where the language or the phrases of a document cannot be read, nothing is loaded. -/
theorem rulesOfEntries_of_no_context
    {failure : Failure}
    (noContext : DefinitionContext.ofEntries source language document = .error failure) :
    rulesOfEntries source language document = .error failure := by
  rw [rulesOfEntries, noContext]
  rfl

/-- Where the definitions of a document cannot be read, it has no groups and nothing is loaded. -/
theorem rulesOfEntries_of_no_definitions
    {context : DefinitionContext}
    (isContext : DefinitionContext.ofEntries source language document = .ok context)
    {failure : Failure}
    (noDefinitions : (Value.fieldOr "rules" .null document).elementsIfAny = .error failure) :
    ungrouped document = document ∧
      rulesOfEntries source language document = .error failure := by
  have noNumbered : numberedDefinitionsOf document = .error failure := by
    rw [numberedDefinitionsOf, noDefinitions]
    rfl
  constructor
  · rw [ungrouped, noNumbered]
  · rw [rulesOfEntries, isContext, noDefinitions]
    rfl

/-- The rules of what the definitions of a document stand for have no sub-id. -/
theorem forall₂_reads_without_subId
    (holdMappings : GroupsHoldMappings document)
    {definitions : List Value}
    (areDefinitions : (Value.fieldOr "rules" .null document).elementsIfAny = .ok definitions)
    {context : DefinitionContext}
    {parts : List Loaded}
    (reads :
      ((definitions.flatMap numberedDefinitions).mapM fun numbered =>
        RuleEntries.allRules context numbered.definition) = .ok parts) :
    List.Forall₂
      (fun numbered part =>
        RuleEntries.allRules context numbered.definition = .ok part ∧
          ∀ rule ∈ part.rules, rule.subId = .null)
      (definitions.flatMap numberedDefinitions) parts := by
  have readEach :=
    (List.forall₂_and_left _ _).mpr ⟨fun _ member => member, Outcome.mapM_eq_ok_iff.mp reads⟩
  refine readEach.imp ?_
  rintro numbered part ⟨isNumbered, readPart⟩
  obtain ⟨definition, isDefinition, standsFor⟩ := List.mem_flatMap.mp isNumbered
  have haveMembers := holdMappings definitions areDefinitions definition isDefinition
  have alone := alone_of_mem_numberedDefinitions haveMembers standsFor
  exact ⟨readPart, fun rule member => subId_of_alone alone readPart member⟩

/--
A document with groups and the one in which each group is replaced by what its members stand
for are loaded alike: with the same failure, or with the same rules in the same order, where the
rules of a member have its number and all others no sub-id.
-/
theorem rulesOfEntries_ungrouped
    (source language : String)
    (holdMappings : GroupsHoldMappings document) :
    (∃ failure,
        rulesOfEntries source language document = .error failure ∧
          rulesOfEntries source language (ungrouped document) = .error failure) ∨
      ∃ context numbered parts,
        DefinitionContext.ofEntries source language document = .ok context ∧
          numberedDefinitionsOf document = .ok numbered ∧
            List.Forall₂
                (fun one part =>
                  RuleEntries.allRules context one.definition = .ok part ∧
                    ∀ rule ∈ part.rules, rule.subId = .null)
                numbered parts ∧
              rulesOfEntries source language (ungrouped document) = .ok (.concat parts) ∧
                rulesOfEntries source language document =
                  .ok (.concat
                    (List.zipWith (fun one part => part.withSubId one.subId) numbered parts)) := by
  cases isContext : DefinitionContext.ofEntries source language document with
  | error failure =>
      exact .inl ⟨failure, rulesOfEntries_of_no_context isContext,
        rulesOfEntries_of_no_context (ofEntries_ungrouped.trans isContext)⟩
  | ok context =>
      cases areDefinitions : (Value.fieldOr "rules" .null document).elementsIfAny with
      | error failure =>
          obtain ⟨unchanged, fails⟩ := rulesOfEntries_of_no_definitions isContext areDefinitions
          exact .inl ⟨failure, fails, by rw [unchanged, fails]⟩
      | ok definitions =>
          have areNumbered :
              numberedDefinitionsOf document = .ok (definitions.flatMap numberedDefinitions) := by
            rw [numberedDefinitionsOf, areDefinitions]
            rfl
          rw [rulesOfEntries_of_definitions isContext areDefinitions,
            mapM_allRules_eq context (holdMappings definitions areDefinitions),
            rulesOfEntries_of_definitions (ofEntries_ungrouped.trans isContext)
              (elementsIfAny_ungrouped areNumbered),
            List.mapM_map]
          cases reads : (definitions.flatMap numberedDefinitions).mapM fun numbered =>
            RuleEntries.allRules context numbered.definition with
          | error failure =>
              exact .inl ⟨failure, rfl, congrArg _ reads⟩
          | ok parts =>
              have readEach := forall₂_reads_without_subId holdMappings areDefinitions reads
              exact .inr ⟨context, _, parts, rfl, areNumbered, readEach, congrArg _ reads, rfl⟩

end Document

/-- A group of two greetings, of which the second one has a pattern of its own, and a rule alone. -/
def groupedGreetings : List (Value × Value) :=
  [(.text "phrases",
      .mapping
        [(.text "greeting",
          .list [.list [.text "good", .text "day"], .list [.text "hello"]])]),
    (.text "rules",
      .list
        [.mapping
          [(.text "id", .text "GREETING"), (.text "message", .text "Greet."),
            (.text "pattern", .list [.mapping [(.text "phraseref", .text "greeting")]]),
            (.text "rules",
              .list
                [.mapping [(.text "message", .text "Wave.")],
                  .mapping [(.text "pattern", .list [.text "hi"])]])],
          .mapping
            [(.text "id", .text "FAREWELL"), (.text "message", .text "Leave."),
              (.text "pattern", .list [.text "bye"])]])]

/-- The sub-ids and the messages of rules. -/
def Loaded.labels (loaded : Loaded) : List (Option String × Option String) :=
  loaded.rules.map fun rule => (rule.subId.asText?, rule.message.asText?)

theorem groupsHoldMappings_groupedGreetings :
    GroupsHoldMappings groupedGreetings := by
  rintro definitions areDefinitions definition isDefinition id group members
    ⟨rfl, _, notAlone, areMembers⟩
  simp [groupedGreetings, Value.fieldOr, Value.elementsIfAny, Value.isTruthy,
    Value.elements] at areDefinitions
  subst areDefinitions
  simp only [List.mem_cons, List.not_mem_nil, or_false, Value.mapping.injEq] at isDefinition
  rcases isDefinition with rfl | rfl
  · simp [Value.fieldOr, Value.elements] at areMembers
    subst areMembers
    simp [AreMembers]
  · simp [Value.fieldOr] at notAlone

/-- The rules of the second member inherit the message, and only the numbers are lost. -/
theorem rulesOfEntries_ungrouped_greetings :
    GroupsHoldMappings groupedGreetings ∧
      ∃ grouped alone,
        rulesOfEntries "rules.yaml" "" groupedGreetings = .ok grouped ∧
          rulesOfEntries "rules.yaml" "" (ungrouped groupedGreetings) = .ok alone ∧
            alone.rules.map (·.tokens) = grouped.rules.map (·.tokens) ∧
              grouped.labels =
                  [(some "1", some "Wave."), (some "1", some "Wave."), (some "2", some "Greet."),
                    (none, some "Leave.")] ∧
                alone.labels =
                  [(none, some "Wave."), (none, some "Wave."), (none, some "Greet."),
                    (none, some "Leave.")] := by
  have groupedLabels :
      ((rulesOfEntries "rules.yaml" "" groupedGreetings).map Loaded.labels).toOption =
        some
          [(some "1", some "Wave."), (some "1", some "Wave."), (some "2", some "Greet."),
            (none, some "Leave.")] := by
    decide +kernel
  have aloneLabels :
      ((rulesOfEntries "rules.yaml" "" (ungrouped groupedGreetings)).map Loaded.labels).toOption =
        some
          [(none, some "Wave."), (none, some "Wave."), (none, some "Greet."),
            (none, some "Leave.")] := by
    decide +kernel
  have holdMappings := groupsHoldMappings_groupedGreetings
  refine ⟨holdMappings, ?_⟩
  rcases rulesOfEntries_ungrouped "rules.yaml" "" holdMappings with
    ⟨failure, fails, _⟩ | ⟨_, numbered, parts, _, _, readEach, loadsAlone, loadsGrouped⟩
  · rw [fails] at groupedLabels
    cases groupedLabels
  · refine ⟨_, _, loadsGrouped, loadsAlone, ?_, ?_, ?_⟩
    · exact (map_rules_concat_withSubId (fun _ _ => rfl) readEach.length_eq).symm
    · rw [loadsGrouped] at groupedLabels
      exact Option.some.inj groupedLabels
    · rw [loadsAlone] at aloneLabels
      exact Option.some.inj aloneLabels

end ProseRules
