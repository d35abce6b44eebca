import Mathlib
import ModuleInterface.Proofs.Container.Interchange
import ModuleInterface.Proofs.Workspace.Queries

/-!
# Sessions that differ in how an index is shown

A session may give an index in either of two ways that show its sort differently. Each of its
steps then has the same outcome, but for how a fault shows the index, and leaves the same
workspace (`Step.Swaps.perform`), and so does the session as a whole
(`Workspace.outcomes_alike`). What a container has under an index is found by its encoding
alone, whichever way the index is given.
-/

namespace ModuleInterface

/-! ## Steps -/

/-- A value, and the same value with one index in place of another. -/
inductive Value.Swaps (left right : TaggedIndex) : Value → Value → Prop
  | refl (value : Value) : Swaps left right value value
  | index : Swaps left right (.tagged left) (.tagged right)

/-- A value, and the same value with one index in place of another, or in place of some of
the values that it consists of. -/
inductive Value.SwapsWithin (left right : TaggedIndex) : Value → Value → Prop
  | value
      {value other : Value}
      (swaps : value.Swaps left right other) :
      SwapsWithin left right value other
  | list
      {items others : List Value}
      (swaps : List.Forall₂ (Value.Swaps left right) items others) :
      SwapsWithin left right (.list items) (.list others)

/-- A step of a session, and the same step with one index in place of another. -/
inductive Step.Swaps (left right : TaggedIndex) : Step → Step → Prop
  | refl (step : Step) : Swaps left right step step
  | ask
      (container : String)
      {request other : Request TargetName}
      (swaps : request.Swaps left right other)
      (name : Option String) :
      Swaps left right (.ask container request name) (.ask container other name)
  | viewElement (part : String) :
      Swaps left right (.viewPart part (.element (.tagged left)))
        (.viewPart part (.element (.tagged right)))
  | specForIndex :
      Swaps left right (.specForIndex (.tagged left)) (.specForIndex (.tagged right))
  | pack
      (record : String)
      {fields others : List Value}
      (swaps : List.Forall₂ (Value.Swaps left right) fields others) :
      Swaps left right (.pack record fields) (.pack record others)
  | packElement
      (element : String)
      {value other : Value}
      (swaps : value.SwapsWithin left right other) :
      Swaps left right (.packElement element value) (.packElement element other)
  | flatten
      {values others : List Value}
      (swaps : List.Forall₂ (Value.Swaps left right) values others) :
      Swaps left right (.flatten values) (.flatten others)
  | addElements
      (target : TargetName)
      {values others : List Value}
      (swaps : List.Forall₂ (Value.SwapsWithin left right) values others)
      (name : Option String) :
      Swaps left right (.addElements target values name) (.addElements target others name)

section Packing

variable {left right : TaggedIndex}

theorem Value.Swaps.lower_eq
    (alike : left.Alike right)
    {value other : Value}
    (swaps : value.Swaps left right other) :
    value.lower = other.lower := by
  cases swaps with
  | refl => rfl
  | index => rw [Value.lower, Value.lower, alike.raw_eq]

theorem Value.Swaps.requireEncoding_eq
    {value other : Value}
    (swaps : value.Swaps left right other) :
    value.requireEncoding = other.requireEncoding := by
  cases swaps with
  | refl => rfl
  | index => rfl

/-- Values are stored as the same bare values. -/
theorem Value.flatten_eq
    (alike : left.Alike right)
    {values others : List Value}
    (swaps : List.Forall₂ (Value.Swaps left right) values others) :
    Value.flatten values = Value.flatten others := by
  induction swaps with
  | nil => rfl
  | cons first _ inductionHypothesis =>
      rw [flatten, flatten, List.flatMap_cons, List.flatMap_cons, first.lower_eq alike]
      exact congrArg _ inductionHypothesis

theorem Value.forM_requireEncoding_eq
    {values others : List Value}
    (swaps : List.Forall₂ (Value.Swaps left right) values others) :
    values.forM Value.requireEncoding = others.forM Value.requireEncoding := by
  induction swaps with
  | nil => rfl
  | cons first _ inductionHypothesis =>
      rw [List.forM, List.forM, first.requireEncoding_eq, inductionHypothesis]

/-- A record is packed the same. -/
theorem Schema.pack_eq
    (alike : left.Alike right)
    (schema : Schema)
    {values others : List Value}
    (swaps : List.Forall₂ (Value.Swaps left right) values others) :
    schema.pack values = schema.pack others := by
  simp only [pack, Codec.pack?, Value.flatten_eq alike swaps,
    Value.forM_requireEncoding_eq swaps]

/-- An element is packed the same. -/
theorem Element.pack_eq
    (alike : left.Alike right)
    (element : Element)
    {value other : Value}
    (swaps : value.SwapsWithin left right other) :
    element.pack value = element.pack other := by
  cases swaps with
  | value swaps =>
      cases swaps with
      | refl => rfl
      | index =>
          cases element with
          | record schema =>
              simp only [pack, Value.components, Value.items?, Value.typeName, alike.kind]
          | _ => simp only [pack, alike.raw_eq]
  | list swaps =>
      cases element with
      | record schema => exact schema.pack_eq alike swaps
      | _ => rfl

/-- Elements are added to a builder the same. -/
theorem Builder.addElements_eq
    (alike : left.Alike right)
    (builder : Builder)
    (spec : PartitionSpec)
    {values others : List Value}
    (swaps : List.Forall₂ (Value.SwapsWithin left right) values others)
    (name : Option String) :
    builder.addElements spec values name = builder.addElements spec others name := by
  have packed : values.mapM spec.element.pack = others.mapM spec.element.pack := by
    induction swaps with
    | nil => rfl
    | cons first _ inductionHypothesis =>
        rw [List.mapM_cons, List.mapM_cons, Element.pack_eq alike _ first,
          inductionHypothesis]
  rw [addElements, addElements, packed]

/-- The unit of a container is written as the encoding of its index. -/
theorem BuildOptions.unitEncoding_tagged
    (options : BuildOptions)
    (index : TaggedIndex) :
    { options with unit := .tagged index }.unitEncoding = .ok (.integer index.raw) := by
  simp [unitEncoding, Value.isTrue, Value.integer?, Value.part, Value.parts, List.lookup_cons,
    bind, Except.bind]

/-- A container is written the same. -/
theorem Builder.build_unit_eq
    (alike : left.Alike right)
    (builder : Builder)
    (options : BuildOptions) :
    builder.build { options with unit := .tagged left } =
      builder.build { options with unit := .tagged right } := by
  have header : ∀ sourcePath contents complete,
      Builder.packHeader complete { options with unit := .tagged left } sourcePath contents =
        Builder.packHeader complete { options with unit := .tagged right } sourcePath
          contents := by
    intro sourcePath contents complete
    rw [packHeader, packHeader, BuildOptions.unitEncoding_tagged,
      BuildOptions.unitEncoding_tagged, alike.raw_eq]
    rfl
  simp only [build, buildWith, header]

end Packing

namespace Session

variable {left right : TaggedIndex}

theorem onContainer_interchangeable
    {α : Type}
    {query other : Query α}
    (alike : Interchangeable query other)
    (number : Nat) :
    Interchangeable (onContainer number query) (onContainer number other) := by
  intro workspace
  change OutcomesAlike ((onContainer number query).on workspace).1
      ((onContainer number other).on workspace).1 ∧
    ((onContainer number query).on workspace).2 = ((onContainer number other).on workspace).2
  rw [on_onContainer, on_onContainer]
  cases workspace.containers[number]? with
  | none => exact ⟨.refl _, rfl⟩
  | some container =>
      obtain ⟨outcomes, states⟩ := alike container
      refine ⟨outcomes, ?_⟩
      have same : (query.on container).2 = (other.on container).2 := states
      simp only [same]

theorem askContainer_interchangeable
    (alike : left.Alike right)
    {request other : Request Target}
    (swaps : request.Swaps left right other)
    (number : Nat) :
    Interchangeable (askContainer number request) (askContainer number other) :=
  .bind_right _ fun environment => .bind_right _ fun workspace =>
    onContainer_interchangeable (swaps.answer alike workspace.registry environment) number

end Session

/-- The names in a request that takes an index stand for themselves. -/
theorem Request.Swaps.lookup
    {left right : TaggedIndex}
    {request other : Request TargetName}
    (swaps : request.Swaps left right other) :
    request = other ∨ ∃ found otherFound : Request Target, found.Swaps left right otherFound ∧
      request.lookup Session.target = pure found ∧
      other.lookup Session.target = pure otherFound := by
  cases swaps with
  | refl => exact .inl rfl
  | resolve => exact .inr ⟨_, _, .resolve, rfl, rfl⟩
  | attributesOf => exact .inr ⟨_, _, .attributesOf, rfl, rfl⟩
  | traitOf kind => exact .inr ⟨_, _, .traitOf kind, rfl, rfl⟩
  | deprecationText => exact .inr ⟨_, _, .deprecationText, rfl, rfl⟩
  | importVia => exact .inr ⟨_, _, .importVia, rfl, rfl⟩
  | scopeOf => exact .inr ⟨_, _, .scopeOf, rfl, rfl⟩
  | kindOf => exact .inr ⟨_, _, .kindOf, rfl, rfl⟩
  | membersOf => exact .inr ⟨_, _, .membersOf, rfl, rfl⟩
  | tupleElements => exact .inr ⟨_, _, .tupleElements, rfl, rfl⟩
  | qualifiedNameParts => exact .inr ⟨_, _, .qualifiedNameParts, rfl, rfl⟩
  | element view => exact .inr ⟨_, _, .element view, rfl, rfl⟩

/-- A step has the same outcome with equal indices, but for how a fault shows them, and leaves
the same workspace. -/
theorem Step.Swaps.perform
    {left right : TaggedIndex}
    (alike : left.Alike right)
    {step other : Step}
    (swaps : step.Swaps left right other) :
    Interchangeable step.perform other.perform := by
  cases swaps with
  | refl => exact .refl _
  | ask container swaps name =>
      refine .bind_right _ fun number => ?_
      obtain rfl | ⟨found, otherFound, swaps, looked, otherLooked⟩ := swaps.lookup
      · exact .refl _
      · rw [looked, otherLooked, pure_bind, pure_bind]
        exact .bind_left (Session.askContainer_interchangeable alike swaps number) _
  | viewElement part =>
      refine .bind_right _ fun workspace => .bind_right _ fun bound => ?_
      exact .bind_left (Session.askContainer_interchangeable alike (.element _) _) _
  | specForIndex =>
      refine .bind_right _ fun workspace => ?_
      rw [alike.forIndex?_eq]
      exact .refl _
  | pack record swaps =>
      refine .bind_right _ fun known => ?_
      rw [known.schema.pack_eq alike swaps]
      exact .refl _
  | packElement element swaps =>
      refine .bind_right _ fun element => ?_
      rw [element.pack_eq alike swaps]
      exact .refl _
  | flatten swaps =>
      refine .of_eq ?_
      rw [Step.perform, Step.perform, Value.flatten_eq alike swaps,
        Value.forM_requireEncoding_eq swaps]
  | addElements target swaps name =>
      refine .bind_right _ fun spec => .bind_right _ fun workspace => ?_
      rw [Builder.addElements_eq alike workspace.builder spec swaps name]
      exact .refl _

/-! ## Sessions -/

namespace Workspace

/-- The outcomes of the steps of a session. -/
def outcomes : Workspace → List Step → List (Except Fault Outcome)
  | _, [] => []
  | workspace, step :: rest =>
      (workspace.run step).1 :: (workspace.run step).2.1.outcomes rest

variable {left right : TaggedIndex}

theorem run_alike
    (alike : left.Alike right)
    {step other : Step}
    (swaps : step.Swaps left right other)
    (workspace : Workspace) :
    OutcomesAlike (workspace.run step).1 (workspace.run other).1 ∧
      (workspace.run step).2.1 = (workspace.run other).2.1 := by
  obtain ⟨outcomes, states⟩ := swaps.perform alike workspace
  refine ⟨?_, states⟩
  rw [run_fst, run_fst]
  exact (OutcomesAlike.bind outcomes fun _ => .refl _).mapError_shown

/-- A session has the same outcomes with equal indices, but for how faults show them, and
leaves the same workspace. -/
theorem outcomes_alike
    (alike : left.Alike right)
    {steps others : List Step}
    (swaps : List.Forall₂ (Step.Swaps left right) steps others)
    (workspace : Workspace) :
    List.Forall₂ OutcomesAlike (workspace.outcomes steps) (workspace.outcomes others) ∧
      workspace.after steps = workspace.after others := by
  induction swaps generalizing workspace with
  | nil => exact ⟨.nil, rfl⟩
  | cons first _ inductionHypothesis =>
      obtain ⟨same, sameState⟩ := run_alike alike first workspace
      rw [outcomes, outcomes, after, after, ← sameState]
      obtain ⟨others, sameAfter⟩ := inductionHypothesis (workspace.run _).2.1
      exact ⟨.cons same others, sameAfter⟩

end Workspace

/-! ## What is recorded under an index -/

/-- An index that is read from bytes is equal to one of its kind without a fraction exactly
if their encodings are. -/
theorem TaggedIndex.same_eq_decide_raw
    {stored index : TaggedIndex}
    (sameKind : stored.kind = index.kind)
    (storedWhole : stored.fractionalSort? = none)
    (whole : index.fractionalSort? = none) :
    (Value.tagged stored).same (.tagged index) = decide (stored.raw = index.raw) := by
  rw [same_value, Bool.eq_iff_iff, decide_eq_true_iff]
  exact same_iff_raw_eq sameKind (storedWhole.trans whole.symm)

namespace Container

variable {index : TaggedIndex}

/-- The records of a declaration are those under its encoding. -/
theorem last?_traitRecords
    (container : Container)
    (kind : SingleTrait)
    (declares : index.kind = .decl)
    (whole : index.fractionalSort? = none) :
    TraitRecord.last? (container.traitRecords kind) (.tagged index) =
      ((container.traitRecords kind).filter fun record =>
        record.declaration.raw = index.raw).getLast?.map TraitRecord.trait := by
  rw [TraitRecord.last?]
  congr 2
  refine List.filter_congr fun record listed => ?_
  obtain ⟨offset, rfl⟩ := exists_recordAt_of_mem_traitRecords listed
  exact TaggedIndex.same_eq_decide_raw declares.symm rfl whole

/-- The attributes of a declaration are those under its encoding. -/
theorem attributesOf_allAssociations
    (container : Container)
    (declares : index.kind = .decl)
    (whole : index.fractionalSort? = none) :
    Association.attributesOf container.allAssociations (.tagged index) =
      (container.allAssociations.filter fun association =>
        association.declaration.raw = index.raw).map Association.attached := by
  rw [Association.attributesOf]
  congr 1
  refine List.filter_congr fun association listed => ?_
  obtain ⟨word, attached, rfl⟩ := eq_ofWords_of_mem_allAssociations association listed
  exact TaggedIndex.same_eq_decide_raw declares.symm rfl whole

end Container

/-! ## All together -/

/-- What a container has recorded of the declarations whose indices, as they are read from its
bytes, have an encoding is found when the declaration is asked for by an index. -/
structure Container.FindsByEncoding (container : Container) (index : TaggedIndex) : Prop where
  /-- The trait of the last record, if there is a record. -/
  traits : ∀ kind, container.AgreesWith (SingleTrait.spec kind) →
    ((Query.traitOf kind (.tagged index)).on container).1 =
      .ok ((((container.traitRecords kind).filter fun record =>
        record.declaration.raw = index.raw).getLast?.map TraitRecord.trait).getD kind.absent)
  /-- Every attribute, in the order of the records. -/
  attributes : container.AttributesAgree →
    ((Query.attributesOf (.tagged index)).on container).1 =
      .ok ((container.allAssociations.filter fun association =>
        association.declaration.raw = index.raw).map Association.attached)

/-- Nothing that is done with one of two indices tells it from the other, but for how it is
shown. -/
structure TaggedIndex.Interchangeable (left right : TaggedIndex) : Prop where
  /-- A container answers requests in the same way, and remembers the same. -/
  requests : ∀ (registry : Registry) (environment : Option Environment) (container : Container)
    (request other : Request Target), request.Swaps left right other →
    OutcomesAlike ((request.answer registry environment).on container).1
        ((other.answer registry environment).on container).1 ∧
      ((request.answer registry environment).on container).2 =
        ((other.answer registry environment).on container).2
  /-- A session has the same outcomes, and leaves the same workspace. -/
  sessions : ∀ (workspace : Workspace) (steps others : List Step),
    List.Forall₂ (Step.Swaps left right) steps others →
    List.Forall₂ OutcomesAlike (workspace.outcomes steps) (workspace.outcomes others) ∧
      workspace.after steps = workspace.after others
  /-- They are packed as the same bytes, within whatever is packed. -/
  packs : ∀ (element : Element) (value other : Value), value.SwapsWithin left right other →
    element.pack value = element.pack other
  /-- The same container is written for them. -/
  builds : ∀ (builder : Builder) (options : BuildOptions),
    builder.build { options with unit := .tagged left } =
      builder.build { options with unit := .tagged right }
  /-- They embed the same text. -/
  identifierText : (Value.tagged left).identifierText? = (Value.tagged right).identifierText?
  /-- They embed the same value. -/
  immediateValue : ∃ first second, (Value.tagged left).immediateValue? = .ok first ∧
    (Value.tagged right).immediateValue? = .ok second ∧
    Option.Rel (fun value other => value.same other = true) first second

theorem TaggedIndex.Alike.interchangeable
    {left right : TaggedIndex}
    (alike : left.Alike right) :
    left.Interchangeable right where
  requests registry environment container _ _ swaps :=
    swaps.answer alike registry environment container
  sessions workspace _ _ swaps := workspace.outcomes_alike alike swaps
  packs element _ _ swaps := element.pack_eq alike swaps
  builds := Builder.build_unit_eq alike
  identifierText := alike.identifierText?_eq
  immediateValue := alike.immediateValue?_same

namespace Workspace

/-- A container that is open finds what it has recorded of a declaration by the encoding of
its index. -/
theorem findsByEncoding
    {steps : List Step}
    {number : Nat}
    (spares : SparesAll number initial steps)
    {container : Container}
    (present : (initial.after steps).containers[number]? = some container)
    {index : TaggedIndex}
    (declares : index.kind = .decl)
    (whole : index.fractionalSort? = none) :
    container.FindsByEncoding index := by
  obtain ⟨made, data, backing, fresh, _, remembers, stores, shared, _⟩ :=
    exists_opened spares present
  have key : (Value.tagged index).requireKey = .ok () := Value.requireKey_tagged index
  refine ⟨?_, ?_⟩
  · intro kind agrees
    rw [Container.traitOf_of_agreesWith stores shared remembers agrees key,
      container.last?_traitRecords kind declares whole]
  · intro agree
    rw [Container.attributesOf_of_agree stores shared remembers agree key,
      container.attributesOf_allAssociations declares whole]

/-- Indices of one kind with one encoding are interchangeable, if their sorts are whole
numbers, and a container that is open finds by either what it has recorded under their
encoding. -/
theorem interchangeable_of_raw_eq
    {left right : TaggedIndex}
    (sameKind : left.kind = right.kind)
    (sameRaw : left.raw = right.raw)
    (leftWhole : left.fractionalSort? = none)
    (rightWhole : right.fractionalSort? = none) :
    left.Interchangeable right ∧
      (left.kind = .decl → ∀ (steps : List Step) (number : Nat) (container : Container),
        SparesAll number initial steps →
        (initial.after steps).containers[number]? = some container →
        container.FindsByEncoding left ∧ container.FindsByEncoding right) := by
  refine ⟨(TaggedIndex.alike_of_raw_eq sameKind sameRaw leftWhole rightWhole).interchangeable,
    ?_⟩
  intro declares steps number container spares present
  exact ⟨findsByEncoding spares present declares leftWhole,
    findsByEncoding spares present (sameKind ▸ declares) rightWhole⟩

/-- A declaration whose sort is given as a number that has a name. -/
def numberedDeclaration : TaggedIndex :=
  { TaggedIndex.ofWord .decl 32 with sortSpelling := .number .digits }

theorem interchangeable_of_raw_eq_numberedDeclaration :
    (TaggedIndex.ofWord .decl 32).render = "DeclIndex(VENDOR_EXTENSION, 1)" ∧
      numberedDeclaration.render = "DeclIndex(0, 1)" ∧
      (TaggedIndex.ofWord .decl 32).Interchangeable numberedDeclaration ∧
      ∃ container, (initial.after deprecationsAsked).containers[0]? = some container ∧
        container.AgreesWith (SingleTrait.spec .deprecation) ∧
        ((Query.traitOf .deprecation (.tagged numberedDeclaration)).on container).1 =
          .ok (.plain (.text 18)) := by
  have spares : SparesAll 0 initial deprecationsAsked :=
    ⟨trivial, fun _ => rfl, fun _ => rfl, trivial⟩
  have stored : (initial.after deprecationsAsked).containers[0]?.map (fun container =>
      (container.summary? "trait.deprecated",
        ((container.traitRecords .deprecation).filter fun record =>
          record.declaration.raw = numberedDeclaration.raw).getLast?.map fun record =>
            match record.trait with
            | .plain offset => some offset
            | _ => none)) =
      some (some ⟨1, 107, 2, 8⟩, some (some (.text 18))) := by
    decide +kernel
  obtain ⟨container, present, found⟩ := Option.map_eq_some_iff.mp stored
  obtain ⟨deprecated, last⟩ := Prod.mk.inj found
  obtain ⟨record, isLast, offset⟩ := Option.map_eq_some_iff.mp last
  have agrees : container.AgreesWith (SingleTrait.spec .deprecation) := by
    intro summary listed
    cases deprecated.symm.trans listed
    rfl
  have trait : record.trait = .plain (.text 18) := by
    cases shape : record.trait <;> simp_all
  obtain ⟨interchangeable, finds⟩ : (TaggedIndex.ofWord .decl 32).Interchangeable
      numberedDeclaration ∧ _ := interchangeable_of_raw_eq rfl rfl rfl rfl
  have traits := (finds rfl _ _ container spares present).2.traits .deprecation agrees
  rw [isLast] at traits
  refine ⟨by decide +kernel, by decide +kernel, interchangeable, container, present, agrees, ?_⟩
  rw [traits, ← trait]
  rfl

end Workspace
end ModuleInterface
