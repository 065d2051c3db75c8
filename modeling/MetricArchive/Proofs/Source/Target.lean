import MetricArchive.Command.Scrape
import MetricArchive.Proofs.Path.Lookup

/-!
# Targets that become no source

Main statement: with a positive interval a target becomes a source or is refused as a problem, apart
from exactly three kinds of targets. Two of them are addresses without an instance label of their
own: the label is made from the address before anyone has asked whether it is one. The third are
paths that the system refuses to look up, wherever they lead. A command that scrapes shows a problem
for all other targets and breaks off for these.
-/
namespace MetricArchive

namespace Target

variable {α : Type} {w : Workspace α} {m : Machine α} {target : String} {s : Options}
  {f : TargetFault}

/-- What those who ask for a source expect. -/
def Settled (r : Except TargetFault Source) : Prop :=
  (∃ source, r = .ok source) ∨ ∃ q, r = .error (.problem q) ∧ q.kind = .configuration

/-- The targets that end in something unexpected, by the instance that is given. -/
inductive Slips (w : Workspace α) (m : Machine α) (target : String) : Option String → Prop where
  | address {f : UrlFault} (hurl : isUrl target = true) (h : HttpUrl.read target = .error f) :
    Slips w m target none
  /-- The host is an encoded name that cannot be decoded. -/
  | hostName {u : HttpUrl} {f : Url.NameFault} (hurl : isUrl target = true)
    (h : HttpUrl.read target = .ok u) (hname : u.hostName = .error f) : Slips w m target none
  /-- The path or a name in it is too long, or a folder on the way is closed. -/
  | path {given : Option String} (hpath : isUrl target = false) (hinput : target ≠ "-")
    (h : w.Refuses m (Path.ofText target)) : Slips w m target given

theorem settled_ok (source : Source) : Settled (.ok source) := .inl ⟨source, rfl⟩

theorem settled_problem {q : Problem} (h : q.kind = .configuration) :
    Settled (.error (.problem q)) := .inr ⟨q, rfl, h⟩

theorem not_settled_error (h : ∀ q, f ≠ .problem q) : ¬ Settled (.error f) := by
  rintro (⟨source, hok⟩ | ⟨q, hq, -⟩)
  · cases hok
  · exact h q (Except.error.inj hq)

/-- With a positive interval an address that cannot be read is a problem, and any other a source. -/
theorem periodic_settled (h : s.interval.isPositive = true) (constants : Labels) :
    Settled (periodic target constants s) := by
  unfold periodic
  split
  · exact settled_problem rfl
  · rw [Periodic.new?, if_pos h]
    exact settled_ok _

theorem file_settled_iff (w : Workspace α) (m : Machine α) (target : String) (constants : Labels) :
    Settled (file w target constants m) ↔ ¬ w.Refuses m (Path.ofText target) := by
  rw [← Workspace.isRefusal_locate_iff]
  unfold file
  dsimp only
  cases w.locate (Path.ofText target) m with
  | overlong | closed => exact iff_of_false (not_settled_error (by simp)) (not_not_intro rfl)
  | reached | blocked | looping | unnameable =>
    refine iff_of_true ?_ nofun
    dsimp only
    split
    · split
      · exact settled_ok _
      · exact settled_problem rfl
    · exact settled_problem rfl

theorem constantLabels_given (target : String) (job : Option String) (i : String) :
    ∃ constants, constantLabels target job (some i) = .ok constants := ⟨_, rfl⟩

/-- A target that is no address needs no label. -/
theorem constantLabels_plain (h : isUrl target = false) (job given : Option String) :
    ∃ constants, constantLabels target job given = .ok constants := by
  cases given with
  | some i => exact constantLabels_given target job i
  | none =>
    rw [constantLabels, instanceLabel, h]
    exact ⟨_, rfl⟩

theorem constantLabels_address (hurl : isUrl target = true) {f : UrlFault}
    (h : HttpUrl.read target = .error f) (job : Option String) :
    constantLabels target job none = .error (.address f) := by
  rw [constantLabels, instanceLabel, hurl, h]
  rfl

theorem constantLabels_hostName (hurl : isUrl target = true) {u : HttpUrl}
    (h : HttpUrl.read target = .ok u) (job : Option String) :
    (∃ f, u.hostName = .error f ∧ constantLabels target job none = .error (.hostName f)) ∨
      (∀ f, u.hostName ≠ .error f) ∧
        ∃ constants, constantLabels target job none = .ok constants := by
  rw [constantLabels, instanceLabel, hurl, h]
  cases hname : u.hostName with
  | error f => exact .inl ⟨f, rfl, by simp [defaultInstance, hname, Except.map]⟩
  | ok host => exact .inr ⟨by simp, by simp [defaultInstance, hname, Except.map]⟩

theorem source_of_constants {constants : Labels}
    (h : constantLabels target s.job s.instance = .ok constants) : source w target s m =
      if isUrl target then periodic target constants s
      else if target == "-" then .ok (.oneShot ⟨"-", constants, false⟩)
      else file w target constants m := by
  rw [source, h]
  rfl

theorem kind_of_file_problem {constants : Labels} {q : Problem}
    (h : file w target constants m = .error (.problem q)) : q.kind = .configuration := by
  unfold file at h
  dsimp only at h
  repeat' split at h
  all_goals cases h
  all_goals rfl

theorem kind_of_problem {q : Problem} (h : source w target s m = .error (.problem q)) :
    q.kind = .configuration := by
  have hlabels (job given : Option String) :
      constantLabels target job given ≠ .error (.problem q) := by
    unfold constantLabels instanceLabel
    split
    · exact nofun
    · split
      · split
        · exact nofun
        · split <;> exact nofun
      · exact nofun
  cases hc : constantLabels target s.job s.instance with
  | error f =>
    rw [source, hc] at h
    cases h
    exact absurd hc (hlabels _ _)
  | ok constants =>
    rw [source_of_constants hc] at h
    split at h
    · unfold periodic at h
      split at h
      · cases h
        rfl
      · split at h <;> cases h
    · split at h
      · cases h
      · exact kind_of_file_problem h

theorem source_of_fault (h : constantLabels target s.job s.instance = .error f) :
    source w target s m = .error f := by
  rw [source, h]
  rfl

theorem slips_plain_iff (hurl : isUrl target = false) {given : Option String} :
    Slips w m target given ↔ target ≠ "-" ∧ w.Refuses m (Path.ofText target) := by
  constructor
  · intro hslip
    cases hslip with
    | address h => simp [hurl] at h
    | hostName h => simp [hurl] at h
    | path _ hinput hrefused => exact ⟨hinput, hrefused⟩
  · exact fun ⟨hinput, hrefused⟩ => .path hurl hinput hrefused

theorem not_slips_given (hurl : isUrl target = true) (i : String) : ¬ Slips w m target (some i) := by
  intro hslip
  cases hslip with
  | path hplain => simp [hurl] at hplain

theorem not_slips_named (hurl : isUrl target = true) {u : HttpUrl} (h : HttpUrl.read target = .ok u)
    (hname : ∀ f, u.hostName ≠ .error f) : ¬ Slips w m target none := by
  intro hslip
  cases hslip with
  | address _ hread => simp [h] at hread
  | hostName _ hread hfault =>
    rw [h] at hread
    cases hread
    exact hname _ hfault
  | path hplain => simp [hurl] at hplain

theorem plain_settled_iff (hurl : isUrl target = false) :
    Settled (source w target s m) ↔ ¬ Slips w m target s.instance := by
  obtain ⟨constants, hlabels⟩ := constantLabels_plain hurl s.job s.instance
  rw [source_of_constants hlabels, hurl, if_neg (by decide), slips_plain_iff hurl]
  by_cases hinput : target = "-"
  · simp [hinput, settled_ok]
  · simp [hinput, file_settled_iff]

theorem address_settled_iff (h : s.interval.isPositive = true) (hurl : isUrl target = true) :
    Settled (source w target s m) ↔ ¬ Slips w m target s.instance := by
  have hsource {constants : Labels}
      (hlabels : constantLabels target s.job s.instance = .ok constants) :
      Settled (source w target s m) := by
    rw [source_of_constants hlabels, if_pos hurl]
    exact periodic_settled h constants
  cases hgiven : s.instance with
  | some i =>
    obtain ⟨constants, hlabels⟩ := constantLabels_given target s.job i
    exact iff_of_true (hsource (hgiven ▸ hlabels)) (not_slips_given hurl i)
  | none =>
    cases hread : HttpUrl.read target with
    | error f =>
      have hlabels := constantLabels_address hurl hread s.job
      rw [← hgiven] at hlabels
      rw [source_of_fault hlabels]
      exact iff_of_false (not_settled_error (by simp)) (not_not_intro (.address hurl hread))
    | ok u =>
      obtain ⟨f, hname, hlabels⟩ | ⟨hname, constants, hlabels⟩ :=
        constantLabels_hostName hurl hread s.job
      · rw [← hgiven] at hlabels
        rw [source_of_fault hlabels]
        exact iff_of_false (not_settled_error (by simp))
          (not_not_intro (.hostName hurl hread hname))
      · exact iff_of_true (hsource (hgiven ▸ hlabels)) (not_slips_named hurl hread hname)

/-- An address that cannot be read is a problem if the instance is given, and only then. -/
theorem source_of_unreadable {f : UrlFault} (hurl : isUrl target = true)
    (h : HttpUrl.read target = .error f) : source w target s m =
      .error (if s.instance.isSome then .problem (invalidUrl target) else .address f) := by
  cases hgiven : s.instance with
  | some i =>
    obtain ⟨constants, hlabels⟩ := constantLabels_given target s.job i
    rw [source_of_constants (hgiven ▸ hlabels), if_pos hurl, periodic, h]
    rfl
  | none =>
    have hlabels := constantLabels_address hurl h s.job
    rw [← hgiven] at hlabels
    rw [source_of_fault hlabels]
    rfl

end Target

namespace ScrapeOptions

open Target

variable {st : Settings} {o : ScrapeOptions} {p : Progress} {target : String}

/-- A command that scrapes asks for the source in the state that it is in. -/
theorem sourceOf_eq (h : (nonEmpty o.target <|> nonEmpty st.target) = some target) :
    ExceptT.run (sourceOf st o) p =
      ExceptT.run
        (sourceAt target (Target.source p.workspace target (o.targetOptions st) p.machine)) p := by
  rw [sourceOf, h]
  rfl

/-- A problem is kept to be shown, and at anything else the command breaks off. -/
theorem sourceAt_broken_iff {r : Except TargetFault Source}
    (h : ∀ q, r = .error (.problem q) → q.kind = .configuration) :
    (∃ b, (ExceptT.run (sourceAt target r) p).1 = .error (.broken b)) ↔ ¬ Settled r := by
  cases r with
  | ok source =>
    refine iff_of_false ?_ (not_not_intro (settled_ok source))
    rintro ⟨b, hb⟩
    cases hb
  | error f =>
    cases f with
    | problem q =>
      refine iff_of_false ?_ (not_not_intro (settled_problem (h q rfl)))
      rintro ⟨b, hb⟩
      cases hb
    | _ => exact iff_of_true ⟨_, rfl⟩ (not_settled_error nofun)

theorem sourceOf_broken_iff (h : (nonEmpty o.target <|> nonEmpty st.target) = some target) :
    (∃ b, (ExceptT.run (sourceOf st o) p).1 = .error (.broken b)) ↔
      ¬ Settled (Target.source p.workspace target (o.targetOptions st) p.machine) := by
  rw [sourceOf_eq h]
  exact sourceAt_broken_iff fun _ => kind_of_problem

end ScrapeOptions

namespace Target

/-- With a positive interval a target becomes a source or is a problem unless it slips; an address
that cannot be read is a problem exactly if the instance is given; and the command that scrapes
breaks off exactly at a slip. -/
theorem source_settled_iff {α : Type} (w : Workspace α) (m : Machine α) (target : String)
    (s : Options) (h : s.interval.isPositive = true) :
    (Settled (source w target s m) ↔ ¬ Slips w m target s.instance) ∧
    (∀ f, isUrl target = true → HttpUrl.read target = .error f → source w target s m =
      .error (if s.instance.isSome then .problem (invalidUrl target) else .address f)) ∧
    (∀ (st : Settings) (o : ScrapeOptions) (p : Progress), o.targetOptions st = s →
      (ScrapeOptions.nonEmpty o.target <|> ScrapeOptions.nonEmpty st.target) = some target →
      ((∃ b, (ExceptT.run (ScrapeOptions.sourceOf st o) p).1 = .error (.broken b)) ↔
        Slips p.workspace p.machine target s.instance)) := by
  have hsettled {β : Type} (w : Workspace β) (m : Machine β) :
      Settled (source w target s m) ↔ ¬ Slips w m target s.instance := by
    cases hurl : isUrl target with
    | true => exact address_settled_iff h hurl
    | false => exact plain_settled_iff hurl
  refine ⟨hsettled w m, fun f hurl hread => source_of_unreadable hurl hread, ?_⟩
  rintro st o p rfl htarget
  rw [ScrapeOptions.sourceOf_broken_iff htarget, hsettled, Classical.not_not]

theorem source_settled_given : defaultInterval.isPositive = true ∧
    Settled (source (Workspace.empty : Workspace Unit) "http://host:abc/metrics"
      ⟨defaultInterval, none, none, some "a", none⟩) := by
  have hpositive : defaultInterval.isPositive = true := by decide +kernel
  have hsettled := source_settled_iff (Workspace.empty : Workspace Unit) .unknown
    "http://host:abc/metrics"
    ⟨defaultInterval, none, none, some "a", none⟩ hpositive
  exact ⟨hpositive, hsettled.1.mpr (not_slips_given (by decide +kernel) "a")⟩

/-- Without an instance label an address with an unreadable port is no configuration problem. -/
theorem source_unreadable_port : defaultInterval.isPositive = true ∧
    isUrl "http://host:abc/metrics" = true ∧
    HttpUrl.read "http://host:abc/metrics" = .error (.port "abc") ∧
    source (Workspace.empty : Workspace Unit) "http://host:abc/metrics"
      ⟨defaultInterval, none, none, none, none⟩ = .error (.address (.port "abc")) ∧
    ¬ Settled (source (Workspace.empty : Workspace Unit) "http://host:abc/metrics"
      ⟨defaultInterval, none, none, none, none⟩) := by
  have hurl : isUrl "http://host:abc/metrics" = true := by decide +kernel
  have hread : HttpUrl.read "http://host:abc/metrics" = .error (.port "abc") := by rfl
  have hsource : source (Workspace.empty : Workspace Unit) "http://host:abc/metrics"
      ⟨defaultInterval, none, none, none, none⟩ = .error (.address (.port "abc")) :=
    source_of_unreadable hurl hread
  refine ⟨by decide +kernel, hurl, hread, hsource, ?_⟩
  rw [hsource]
  exact not_settled_error nofun

end Target

end MetricArchive
