import Autoformat.Config.Basic
import Autoformat.Platform.Rest
import Autoformat.Proofs.Objects
import Autoformat.Proofs.OutcomeText
import Autoformat.Stage.Basic
import Autoformat.Status

/-!
# Values that are printed and read back

Every type that is written as JSON has a `LawfulWire`: words have it by their names (`Named.decode_encode`), and
records from their fields (`Fields.record_written`).

`everyWireRoundTrips` puts together what follows for texts: whatever is printed of a comment, a pull request, an
outcome, a status or a configuration is read as the same value, which is printed as the same text.
-/

namespace Autoformat

open Json (Doc LawfulWire Wire decode decode_encode encode)
open Json.Fields (record_written reads_written reads_field reads_absent)

/-! ## Events and decisions -/

instance : LawfulWire Association := ⟨fun a => Named.decode_encode (by cases a <;> rfl)⟩

instance : LawfulWire Domain := ⟨fun a => Named.decode_encode (by cases a <;> rfl)⟩

instance : LawfulWire Reaction := ⟨fun a => Named.decode_encode (by cases a <;> rfl)⟩

instance : LawfulWire CommitState := ⟨fun a => Named.decode_encode (by cases a <;> rfl)⟩

instance : LawfulWire Comment where
  decode_encode c := by
    cases c
    refine record_written (by simp) ?_
    iterate 7 refine .seq ?_ (reads_written rfl)
    exact .map _ (reads_written rfl)

instance : LawfulWire PullRequest where
  decode_encode p := by
    cases p
    refine record_written (by simp) ?_
    iterate 6 refine .seq ?_ (reads_written rfl)
    exact .map _ (reads_written rfl)

instance : LawfulWire ChangedFiles where
  decode_encode files := by
    show ChangedFiles.mk <$> decode (Doc.ofJson (encode files.paths)) = _
    rw [decode_encode files.paths]
    rfl

instance : LawfulWire DomainFlags where
  decode_encode flags := by
    cases flags
    refine record_written (by simp [Domain.all, Domain.name]) ?_
    iterate 3 refine .seq ?_ (reads_written rfl)
    exact .map _ (reads_written rfl)

instance : LawfulWire Evaluation where
  decode_encode e := by
    cases e
    refine record_written (by simp) ?_
    iterate 4 refine .seq ?_ (reads_written rfl)
    exact .map _ (reads_written rfl)

instance : LawfulWire StatusSettings where
  decode_encode s := by
    cases s
    refine record_written (by simp) ?_
    exact .seq (.map _ (reads_written rfl)) (reads_written rfl)

/-- A link that is left out is read as none. -/
instance : LawfulWire StatusUpdate where
  decode_encode u := by
    obtain ⟨state, context, description, targetUrl⟩ := u
    cases targetUrl with
    | none =>
      refine record_written (by simp [StatusUpdate.members]) (.seq ?_ (reads_absent rfl))
      iterate 2 refine .seq ?_ (reads_written rfl)
      exact .map _ (reads_written rfl)
    | some url =>
      refine record_written (by simp [StatusUpdate.members]) (.seq ?_ (reads_written (a := some url) rfl))
      iterate 2 refine .seq ?_ (reads_written rfl)
      exact .map _ (reads_written rfl)

instance : LawfulWire FinalStatus where
  decode_encode s := by
    cases s
    refine record_written (by simp) ?_
    exact .seq (.map _ (reads_written rfl)) (reads_written rfl)

/-- A directory is written as any text is. -/
theorem Json.asPath_encode (dir : Option String) :
    Doc.asOptional Doc.asPath (Doc.ofJson (encode dir)) = .ok dir := by
  cases dir <;> rfl

instance : LawfulWire Stage where
  decode_encode s := by
    cases s
    refine record_written (by simp) ?_
    iterate 3 refine .seq ?_ (reads_written rfl)
    refine .seq ?_ (reads_field rfl (Json.asPath_encode _))
    iterate 2 refine .seq ?_ (reads_written rfl)
    exact .map _ (reads_written rfl)

instance : LawfulWire Rest.Settings where
  decode_encode s := by
    cases s
    refine record_written (by simp) ?_
    iterate 3 refine .seq ?_ (reads_written rfl)
    exact .map _ (reads_written rfl)

/-! ## The configuration -/

instance : LawfulWire TriggerPolicy where
  decode_encode p := by
    cases p
    refine record_written (by simp) ?_
    iterate 2 refine .seq ?_ (reads_written rfl)
    exact .map _ (reads_written rfl)

instance : LawfulWire DomainPatterns where
  decode_encode p := by
    cases p
    refine record_written (by simp [Domain.all, DomainPatterns.field]) ?_
    iterate 3 refine .seq ?_ (reads_written rfl)
    exact .map _ (reads_written rfl)

instance : LawfulWire StatusConfig where
  decode_encode s := by
    cases s
    refine record_written (by simp) ?_
    exact .seq (.map _ (reads_written rfl)) (reads_written rfl)

instance : LawfulWire Formatter where
  decode_encode f := by
    cases f
    refine record_written (by simp) ?_
    iterate 3 refine .seq ?_ (reads_written rfl)
    exact .map _ (reads_written rfl)

instance : LawfulWire Formatters where
  decode_encode f := by
    cases f
    refine record_written (by simp [Domain.all, Domain.name]) ?_
    iterate 3 refine .seq ?_ (reads_written rfl)
    exact .map _ (reads_written rfl)

instance : LawfulWire CommitConfig where
  decode_encode c := by
    cases c
    refine record_written (by simp) ?_
    iterate 3 refine .seq ?_ (reads_written rfl)
    exact .map _ (reads_written rfl)

instance : LawfulWire Config where
  decode_encode c := by
    cases c
    refine record_written (by simp) ?_
    iterate 5 refine .seq ?_ (reads_written rfl)
    exact .map _ (reads_written rfl)

/-! ## Texts -/

/-- Whatever is printed of a value of the type is read as the value, which is printed as the same text. -/
def RoundTrips (α : Type) [Wire α] : Prop :=
  ∀ a : α, Json.parse α (Json.print a) = .ok a ∧
    Json.print <$> Json.parse α (Json.print a) = .ok (Json.print a)

/-- What is decoded as it was encoded is read as it was printed. -/
theorem roundTrips_of_lawful (α : Type) [Wire α] [LawfulWire α] : RoundTrips α := by
  intro a
  have hread : Json.parse α (Json.print a) = .ok a := Json.parse_print a
  exact ⟨hread, by rw [hread]; rfl⟩

/-- What goes through a file or an answer comes back as it was: events, decisions, tables, statuses and settings. -/
structure EveryWireRoundTrips : Prop where
  comment : RoundTrips Comment
  pullRequest : RoundTrips PullRequest
  changedFiles : RoundTrips ChangedFiles
  domainFlags : RoundTrips DomainFlags
  outcome : RoundTrips Outcome
  evaluation : RoundTrips Evaluation
  statusSettings : RoundTrips StatusSettings
  statusUpdate : RoundTrips StatusUpdate
  finalStatus : RoundTrips FinalStatus
  formatter : RoundTrips Formatter
  stage : RoundTrips Stage
  restSettings : RoundTrips Rest.Settings
  config : RoundTrips Config
  triggerPolicy : RoundTrips TriggerPolicy
  domainPatterns : RoundTrips DomainPatterns
  statusConfig : RoundTrips StatusConfig
  formatters : RoundTrips Formatters
  commitConfig : RoundTrips CommitConfig

/-- Every value that is written as a record or a list is read back from its text. -/
theorem everyWireRoundTrips : EveryWireRoundTrips where
  comment := roundTrips_of_lawful Comment
  pullRequest := roundTrips_of_lawful PullRequest
  changedFiles := roundTrips_of_lawful ChangedFiles
  domainFlags := roundTrips_of_lawful DomainFlags
  outcome := roundTrips_of_lawful Outcome
  evaluation := roundTrips_of_lawful Evaluation
  statusSettings := roundTrips_of_lawful StatusSettings
  statusUpdate := roundTrips_of_lawful StatusUpdate
  finalStatus := roundTrips_of_lawful FinalStatus
  formatter := roundTrips_of_lawful Formatter
  stage := roundTrips_of_lawful Stage
  restSettings := roundTrips_of_lawful Rest.Settings
  config := roundTrips_of_lawful Config
  triggerPolicy := roundTrips_of_lawful TriggerPolicy
  domainPatterns := roundTrips_of_lawful DomainPatterns
  statusConfig := roundTrips_of_lawful StatusConfig
  formatters := roundTrips_of_lawful Formatters
  commitConfig := roundTrips_of_lawful CommitConfig

end Autoformat
