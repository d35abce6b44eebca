import Mathlib
import ModuleInterface.Proofs.Builder.Texts
import ModuleInterface.Proofs.Workspace.Resealing

/-!
# The checksum of built containers

The checksum of a container that is built is the digest of everything after it, so that no
region of the container reaches into it. Bytes with any other checksum in its place are a
container as well, which differs from the first one in nothing but this checksum
(`Builder.checksum_independent`): comparing it with the digest fails, and everything else is
answered as before. What the digest is does not matter; containers have SHA-256 for it, and a
file is refused for its checksum just where the check is asked for
(`Builder.sha256_checked_on_demand`).
-/

namespace ModuleInterface

open Acceptance

/-! ## Loading files -/

namespace Session

variable {digest : List UInt8 → List UInt8} {path : String} {environment : Option String}
variable {place : Option Nat} {workspace : Workspace} {data : List UInt8}
variable {opened : Container}

/-- A file is loaded where its bytes are opened, and its digest is right if it is checked. -/
theorem outcome_openFileWith
    (known : ((environment.mapM environmentNumber).on workspace).1 = .ok place)
    (loaded : (Container.load (.of data .bytes) place).1 = .ok opened)
    (verify : Bool) :
    ((openFileWith digest path (some data) verify environment).on workspace).1 =
      if verify then
        ((Query.requireDigest digest path).on opened).1.map fun _ =>
          ((Query.requireDigest digest path).on opened).2
      else .ok opened := by
  have found : (environment.mapM environmentNumber).on workspace = (.ok place, workspace) :=
    Prod.ext known (on_mapM_environmentNumber_snd environment workspace)
  rw [openFileWith, on_bind, found]
  simp only
  rw [on_bind, on_openBlob, loaded]
  simp only
  cases verify with
  | false => rfl
  | true =>
      generalize (Query.requireDigest digest path).on opened = ran
      obtain ⟨verdict, after⟩ := ran
      cases verdict <;> rfl

end Session

/-! ## Verdicts -/

/-- Some bytes are accepted as a container, and its checksum agrees with a digest of what
follows it or not: comparing them says so, and loading a file of these bytes fails only where
the digest is checked and they do not agree. -/
structure Verdict (digest : List UInt8 → List UInt8) (data : List UInt8) (agrees : Bool) :
    Prop where
  compared : ∀ backing environment, ∃ opened,
    (Container.load (.of data backing) environment).1 = .ok opened ∧
      ((Query.verifyDigest digest).on opened).1 = .ok agrees
  unverified : ∀ (workspace : Workspace) path environment place,
    ((environment.mapM Session.environmentNumber).on workspace).1 = .ok place →
      ∃ opened, ((Session.openFileWith digest path (some data) false environment).on
        workspace).1 = .ok opened
  verified : ∀ (workspace : Workspace) path environment place,
    ((environment.mapM Session.environmentNumber).on workspace).1 = .ok place →
      (agrees = true → ∃ opened, ((Session.openFileWith digest path (some data) true
        environment).on workspace).1 = .ok opened) ∧
      (agrees = false → FailsAs ((Session.openFileWith digest path (some data) true
        environment).on workspace).1 (.reader .checksumMismatch))

/-- The verdict on bytes that are accepted is whether they record the digest. -/
theorem verdict_of_load
    (digest : List UInt8 → List UInt8)
    {data : List UInt8}
    (clear : ClearOfChecksum data)
    {backing : Backing}
    {environment : Option Nat}
    {opened : Container}
    (loaded : (Container.load (.of data backing) environment).1 = .ok opened) :
    Verdict digest data (digest (data.drop 36) == (storedHeader data).checksum) := by
  obtain ⟨signed, sized, named⟩ := accepted_of_load loaded
  have opens := exists_load signed sized named
  have available : ∀ {backing environment opened},
      (Container.load (.of data backing) environment).1 = .ok opened →
        opened.blob.released = false := by
    intro backing environment opened loaded
    rw [(Container.stores_of_load loaded).blob]
    rfl
  refine ⟨fun backing environment => ?_, fun workspace path environment place known => ?_,
    fun workspace path environment place known => ?_⟩
  · obtain ⟨opened, loaded⟩ := opens backing environment
    refine ⟨opened, loaded, ?_⟩
    rw [(Container.based_of_load clear loaded).outcome_verifyDigest, available loaded]
    rfl
  · obtain ⟨opened, loaded⟩ := opens .bytes place
    exact ⟨opened, Session.outcome_openFileWith known loaded false⟩
  · obtain ⟨opened, loaded⟩ := opens .bytes place
    have required := (Container.based_of_load clear loaded).outcome_requireDigest
      (available loaded) digest path
    rw [Session.outcome_openFileWith known loaded, if_pos rfl, required]
    constructor
    · intro agrees
      rw [if_pos (beq_iff_eq.mp agrees)]
      exact ⟨_, rfl⟩
    · intro differs
      rw [if_neg (beq_eq_false_iff_ne.mp differs)]
      exact ⟨_, rfl, Fault.kind_shown_of_reader rfl⟩

/-- Two containers have the same content and the same header but for the checksum, which is
the digest of the content in the first one alone. -/
structure Container.SharesContent (digest : List UInt8 → List UInt8) (checksum : List UInt8)
    (container other : Container) : Prop where
  header : other.header = { container.header with checksum }
  computed : ((Query.computeDigest digest).on other).1 =
    ((Query.computeDigest digest).on container).1
  recorded : ((Query.verifyDigest digest).on container).1 =
    if container.blob.released then .error .released else .ok true
  unrecorded : ((Query.verifyDigest digest).on other).1 =
    if container.blob.released then .error .released else .ok false

/-- Two sessions go on in the same way, unless they ask for the checksum of the container of
a number. -/
structure Workspace.SharesAnswers (digest : List UInt8 → List UInt8)
    (checksum : List UInt8) (number : Nat) (left right : Workspace) : Prop where
  outcomes : ∀ step, left.AsksClear number step → ¬left.AsksChecksum number step →
    (right.run step).1 = (left.run step).1
  content : ∃ container other, left.containers[number]? = some container ∧
    right.containers[number]? = some other ∧ container.SharesContent digest checksum other

/-- Workspaces that differ in the container over another checksum share their answers. -/
theorem Workspace.Twins.sharesAnswers
    {digest : List UInt8 → List UInt8}
    {data altered : List UInt8}
    {number : Nat}
    {made : List PartitionSpec}
    {left right : Workspace}
    (twins : Twins data altered number made left right)
    (differs : Resealed data altered)
    (table : 36 ≤ tableStart data)
    (recorded : digest (data.drop 36) = (storedHeader data).checksum)
    (unrecorded : (storedHeader altered).checksum ≠ (storedHeader data).checksum) :
    SharesAnswers digest (storedHeader altered).checksum number left right := by
  refine ⟨fun step clear quiet => ((twins.run differs table clear).1 quiet).symm, ?_⟩
  obtain ⟨container, journal, present, presentOther, based⟩ := twins.agrees.alike
  have basedOther := based.rebased altered journal
  refine ⟨container, _, present, presentOther, based.header_eq differs journal, ?_, ?_, ?_⟩
  · obtain ⟨_, same⟩ := (Query.Overlooks.computeDigest differs digest container journal based).1
    rw [same]
  · rw [based.outcome_verifyDigest, recorded, BEq.rfl]
  · rw [basedOther.outcome_verifyDigest, differs.content, recorded,
      beq_false_of_ne unrecorded.symm]
    rfl

/-! ## What is built -/

namespace Builder

/-- The regions of what is written start after the header. -/
theorem Writes.clearOfChecksum
    {builder : Builder}
    {image : Image}
    (writes : builder.Writes image) :
    ClearOfChecksum image.bytes := by
  have described := writes.fits.describes
  have offsets : ∀ summary ∈ image.summaries, 36 ≤ summary.offset := by
    intro summary member
    rw [writes.summaries] at member
    obtain ⟨partition, _, start, rfl, _⟩ := exists_of_mem_summariesFrom member
    change 36 ≤ 76 + builder.strings.length + start
    omega
  refine ⟨?_, ?_, writes.fits.forall_summaries_iff.mp offsets⟩
  · rw [described.tableStart]
    decide
  · rw [described.contentsStart, Image.contentsStart]
    omega

/-- What is accepted, and was written with a checksum, records the digest of everything after
the checksum. -/
theorem records_of_buildWith
    {digest : List UInt8 → List UInt8}
    (sized : ∀ content, (digest content).length = 32)
    {builder : Builder}
    {options : BuildOptions}
    (checks : options.checksum = true)
    {data : List UInt8}
    (built : builder.buildWith digest options = .ok data)
    (signed : Signed data) :
    ClearOfChecksum data ∧ digest (data.drop 36) = (storedHeader data).checksum := by
  obtain ⟨_, _, image, _, writes, _, written, recorded⟩ := exists_image_of_buildWith sized built
  obtain rfl := eq_image_of_signed written signed
  refine ⟨writes.clearOfChecksum, ?_⟩
  have start : Dimensions.signature.length = 4 := rfl
  rw [writes.fits.drop_checksum, checksum_storedHeader, Image.bytes, List.append_assoc,
    List.drop_left' start, List.take_left' writes.fits.checksum, recorded checks]

section Sealed

variable {digest : List UInt8 → List UInt8} (sized : ∀ content, (digest content).length = 32)
variable {builder : Builder} {options : BuildOptions} (checks : options.checksum = true)
variable {data : List UInt8} (built : builder.buildWith digest options = .ok data)
variable {backing : Backing} {environment : Option Nat} {opened : Container}
variable (loaded : (Container.load (.of data backing) environment).1 = .ok opened)

include sized checks built loaded

/-- What is accepted, and was written with a checksum, passes the check. -/
theorem verdict_of_buildWith :
    Verdict digest data true := by
  obtain ⟨signed, _, _⟩ := accepted_of_load loaded
  obtain ⟨clear, recorded⟩ := records_of_buildWith sized checks built signed
  have verdict := verdict_of_load digest clear loaded
  rwa [recorded, BEq.rfl] at verdict

variable {checksum : List UInt8} (wide : checksum.length = 32)
variable (other : checksum ≠ (data.drop 4).take 32)

include wide

/-- What is accepted, and was written with a checksum, differs from the same bytes with
another checksum in nothing but the recorded one, and no region of it reaches there. -/
theorem resealed_of_buildWith :
    Resealed data (reseal data checksum) ∧ ClearOfChecksum data ∧
      digest (data.drop 36) = (storedHeader data).checksum ∧
      (storedHeader (reseal data checksum)).checksum = checksum := by
  obtain ⟨signed, stored, _⟩ := accepted_of_load loaded
  obtain ⟨clear, recorded⟩ := records_of_buildWith sized checks built signed
  have long : 36 ≤ data.length := le_trans (by decide) stored.header
  exact ⟨resealed_reseal long wide, clear, recorded, checksum_reseal long wide⟩

include other

/-- With another checksum it is accepted as well, and fails the check. -/
theorem verdict_of_reseal :
    Verdict digest (reseal data checksum) false := by
  obtain ⟨differs, clear, recorded, placed⟩ :=
    resealed_of_buildWith sized checks built loaded wide
  have verdict := verdict_of_load digest (differs.clearOfChecksum clear)
    (congrArg Prod.fst (Container.load_resealed differs clear loaded))
  have unrecorded : (storedHeader data).checksum ≠ checksum := by
    rw [checksum_storedHeader]
    exact other.symm
  rwa [differs.content, recorded, placed, beq_false_of_ne unrecorded] at verdict

open Workspace in
/-- A session that opens the one goes on as a session that opens the other. -/
theorem sharesAnswers_of_reseal
    {opening : List UInt8 → Step}
    (opens : Step.Opening opening)
    {earlier : List Step}
    {outcome : Outcome}
    (answered : ((initial.after earlier).run (opening data)).1 = .ok outcome) :
    ((initial.after earlier).run (opening (reseal data checksum))).1 = .ok outcome ∧
    ∀ later, AsksClearAll (initial.after earlier).containers.size
        ((initial.after earlier).run (opening data)).2.1 later →
      SharesAnswers digest checksum (initial.after earlier).containers.size
        (initial.after (earlier ++ opening data :: later))
        (initial.after (earlier ++ opening (reseal data checksum) :: later)) := by
  obtain ⟨differs, clear, recorded, placed⟩ :=
    resealed_of_buildWith sized checks built loaded wide
  have unrecorded : (storedHeader (reseal data checksum)).checksum ≠
      (storedHeader data).checksum := by
    rw [placed, checksum_storedHeader]
    exact other
  obtain ⟨same, _, twins⟩ := run_opening differs clear opens earlier answered
  refine ⟨same, fun later asksClear => ?_⟩
  obtain ⟨_, twinsLater⟩ := twins.after differs clear.table asksClear
  have shares := twinsLater.sharesAnswers differs clear.table recorded unrecorded
  rw [placed] at shares
  rw [after_append, after_append]
  exact shares

end Sealed

open Workspace in
/-- For any digest of 32 bytes, a container that is written with a checksum after any run of
a builder, and accepted, passes the check of its checksum. With any other 32 bytes in the
place of the checksum it is accepted as well and fails the check, so that its file is loaded
only where the check is not asked for. A session that opens the one goes on as a session
that opens the other: every step has the same outcome in both, unless it asks for the header
or the verdict on the checksum, and the two headers differ in the checksum alone. -/
theorem checksum_independent
    {digest : List UInt8 → List UInt8}
    (sized : ∀ content, (digest content).length = 32)
    {calls : List BuilderCall}
    {options : BuildOptions}
    (checks : options.checksum = true)
    {data : List UInt8}
    (built : (empty.afterAll calls).buildWith digest options = .ok data)
    {backing : Backing}
    {environment : Option Nat}
    {opened : Container}
    (loaded : (Container.load (.of data backing) environment).1 = .ok opened) :
    Verdict digest data true ∧
    ∀ checksum : List UInt8, checksum.length = 32 → checksum ≠ (data.drop 4).take 32 →
      Verdict digest (reseal data checksum) false ∧
      ∀ opening, Step.Opening opening → ∀ earlier outcome,
        ((initial.after earlier).run (opening data)).1 = .ok outcome →
          ((initial.after earlier).run (opening (reseal data checksum))).1 = .ok outcome ∧
          ∀ later, AsksClearAll (initial.after earlier).containers.size
              ((initial.after earlier).run (opening data)).2.1 later →
            SharesAnswers digest checksum (initial.after earlier).containers.size
              (initial.after (earlier ++ opening data :: later))
              (initial.after (earlier ++ opening (reseal data checksum) :: later)) := by
  refine ⟨verdict_of_buildWith sized checks built loaded, fun checksum wide other => ?_⟩
  refine ⟨verdict_of_reseal sized checks built loaded wide other, ?_⟩
  intro opening opens earlier outcome answered
  exact sharesAnswers_of_reseal sized checks built loaded wide other opens answered

/-- With SHA-256 for the digest, a container that is written with a checksum after any run of
a builder, and accepted, passes the check of its checksum, also when its file is loaded. With
any other 32 bytes in the place of the checksum the check fails, and the file is loaded just
where it is not asked for. -/
theorem sha256_checked_on_demand
    {calls : List BuilderCall}
    {options : BuildOptions}
    (checks : options.checksum = true)
    {data : List UInt8}
    (built : (empty.afterAll calls).build options = .ok data)
    {backing : Backing}
    {environment : Option Nat}
    {opened : Container}
    (loaded : (Container.load (.of data backing) environment).1 = .ok opened)
    {workspace : Workspace}
    {path : String}
    {name : Option String}
    {place : Option Nat}
    (known : ((name.mapM Session.environmentNumber).on workspace).1 = .ok place) :
    (Query.verifyChecksum.on opened).1 = .ok true ∧
    (∃ verified, ((Session.openFile path (some data) true name).on workspace).1 =
      .ok verified) ∧
    ∀ checksum : List UInt8, checksum.length = 32 → checksum ≠ (data.drop 4).take 32 →
      (∃ reopened, (Container.load (.of (reseal data checksum) backing) environment).1 =
          .ok reopened ∧ (Query.verifyChecksum.on reopened).1 = .ok false) ∧
      (∃ unverified, ((Session.openFile path (some (reseal data checksum)) false name).on
        workspace).1 = .ok unverified) ∧
      FailsAs ((Session.openFile path (some (reseal data checksum)) true name).on
        workspace).1 (.reader .checksumMismatch) := by
  have verdict := verdict_of_buildWith Sha256.length_digest checks built loaded
  obtain ⟨_, reloaded, agrees⟩ := verdict.compared backing environment
  rw [loaded] at reloaded
  cases reloaded
  refine ⟨agrees, (verdict.verified workspace path name place known).1 rfl, ?_⟩
  intro checksum wide other
  have refused := verdict_of_reseal Sha256.length_digest checks built loaded wide other
  exact ⟨refused.compared backing environment,
    refused.unverified workspace path name place known,
    (refused.verified workspace path name place known).2 rfl⟩

/-- A partition of one byte. -/
def singleByte : List BuilderCall := [.addPartition "a" 1 [7] none]

/-- The defaults, with a checksum. -/
def checked : BuildOptions := { unchecked with checksum := true }

/-- A step that opens a container over some bytes. -/
def openedAs (data : List UInt8) : Step := .openContainer "f" data .bytes none

/-- What is asked of the container: the verdict on its checksum, its header, and a text. -/
def askedLater : List Step := [
  .ask "f" .verifyChecksum none,
  .ask "f" .header none,
  .ask "f" (.string (.integer 1)) none]

theorem checksum_independent_singleByte :
    ∃ data opened outcome,
      (empty.afterAll singleByte).buildWith Sha256.digest checked = .ok data ∧
      (Container.load (.of data .bytes) none).1 = .ok opened ∧
      (Workspace.initial.run (openedAs data)).1 = .ok outcome ∧
      Verdict Sha256.digest data true ∧
      Verdict Sha256.digest (reseal data (List.replicate 32 0)) false ∧
      Workspace.SharesAnswers Sha256.digest (List.replicate 32 0) 0
        (Workspace.initial.after (openedAs data :: askedLater))
        (Workspace.initial.after
          (openedAs (reseal data (List.replicate 32 0)) :: askedLater)) := by
  have asksClear : ∀ workspace, Workspace.AsksClearAll 0 workspace askedLater :=
    fun _ => ⟨fun _ _ absent => by contradiction, fun _ _ absent => by contradiction,
      fun _ _ absent => by contradiction, trivial⟩
  have fine : (do
      let data ← (empty.afterAll singleByte).buildWith Sha256.digest checked
      discard <| (Container.load (.of data .bytes) none).1
      discard <| (Workspace.initial.run (openedAs data)).1
      if List.replicate 32 0 = (data.drop 4).take 32 then throw .fileAbsent else return data :
        Except Fault (List UInt8)).isOk := by
    decide +kernel
  obtain ⟨_, ran⟩ := Fallible.exists_of_isOk fine
  obtain ⟨data, built, remaining⟩ := Fallible.bind_eq_ok.mp ran
  obtain ⟨_, loads, remaining⟩ := Fallible.bind_eq_ok.mp remaining
  obtain ⟨_, opens, final⟩ := Fallible.bind_eq_ok.mp remaining
  obtain ⟨opened, loaded, _⟩ := Fallible.map_eq_ok.mp loads
  obtain ⟨outcome, answered, _⟩ := Fallible.map_eq_ok.mp opens
  have other : List.replicate 32 0 ≠ (data.drop 4).take 32 := by
    intro same
    rw [if_pos same, Fallible.throw_eq_error] at final
    cases final
  have checks : checked.checksum = true := rfl
  obtain ⟨verdict, altered⟩ := checksum_independent Sha256.length_digest checks built loaded
  obtain ⟨verdictOther, sessions⟩ := altered (List.replicate 32 0) rfl other
  have shares := (sessions openedAs (.container "f" .bytes none) [] outcome answered).2
    askedLater (asksClear _)
  exact ⟨data, opened, outcome, built, loaded, answered, verdict, verdictOther, shares⟩

end Builder
end ModuleInterface
