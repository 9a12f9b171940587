import Telemetry.Proofs.Server.Requests
import Telemetry.Proofs.Storage.Lookups
import Telemetry.Proofs.Text.Order

namespace Telemetry

open Telemetry Http

/-! The page of all metrics. It says what is stored and nothing else: neither the kind of storage
nor the order in which it tells of its metrics can be seen in it. -/

namespace Metric

/-- Metrics are listed by the octets of their ids; a gauge and a counter of one id by those of the
names of their kinds. -/
def Precedes (metric other : Metric) : Prop :=
  Bytes.ofText metric.id < Bytes.ofText other.id ∨
    metric.id = other.id ∧ Bytes.ofText metric.kind.name < Bytes.ofText other.kind.name

/-- What the page says of a metric. -/
def IsSegment (metric : Metric) (segment : String) : Prop :=
  ∃ value, metric.valueText = some value ∧ segment = metric.id ++ ": " ++ value ++ "\n"

def SameSeries (metric other : Metric) : Prop :=
  metric.id = other.id ∧ metric.kind.name = other.kind.name

/-- No two of the metrics are of one series. -/
def Distinct (metrics : List Metric) : Prop :=
  metrics.Pairwise fun metric other => ¬ metric.SameSeries other

variable {metric other : Metric}

theorem Distinct.of_perm {metrics told : List Metric} (distinct : Distinct metrics)
    (perm : told.Perm metrics) : Distinct told :=
  perm.symm.pairwise distinct fun {metric other} different same =>
    different (⟨same.1.symm, same.2.symm⟩ : metric.SameSeries other)

theorem Precedes.asymm (precedes : metric.Precedes other) : ¬ other.Precedes metric := by
  rintro (after | ⟨sameId, after⟩)
  · rcases precedes with before | ⟨sameId, -⟩
    · exact List.lt_asymm before after
    · exact List.lt_irrefl _ (sameId ▸ after)
  · rcases precedes with before | ⟨-, before⟩
    · exact List.lt_irrefl _ (sameId ▸ before)
    · exact List.lt_asymm before after

theorem listedBefore_iff : Server.listedBefore metric other = true ↔
    metric.id < other.id ∨ metric.id = other.id ∧ metric.kind.name ≤ other.kind.name := by
  simp [Server.listedBefore]

theorem precedes_of_listedBefore (before : Server.listedBefore metric other = true)
    (different : ¬ metric.SameSeries other) : metric.Precedes other := by
  rcases listedBefore_iff.mp before with earlier | ⟨sameId, notAfter⟩
  · exact .inl (Bytes.ofText_lt earlier)
  · refine .inr ⟨sameId, Bytes.ofText_lt ?_⟩
    by_contra notBefore
    exact different ⟨sameId, String.le_antisymm notAfter (String.not_lt.mp notBefore)⟩

theorem listedBefore_trans {last : Metric} (first : Server.listedBefore metric other = true)
    (second : Server.listedBefore other last = true) : Server.listedBefore metric last = true := by
  rw [listedBefore_iff] at first second ⊢
  rcases first with before | ⟨sameId, kindBefore⟩
  · rcases second with after | ⟨sameId, -⟩
    · exact .inl (String.lt_trans before after)
    · exact .inl (sameId ▸ before)
  · rcases second with after | ⟨alsoSameId, kindAfter⟩
    · exact .inl (sameId ▸ after)
    · exact .inr ⟨sameId.trans alsoSameId, String.le_trans kindBefore kindAfter⟩

theorem listedBefore_total (metric other : Metric) :
    (Server.listedBefore metric other || Server.listedBefore other metric) = true := by
  rw [Bool.or_eq_true, listedBefore_iff, listedBefore_iff]
  by_cases before : metric.id < other.id
  · exact .inl (.inl before)
  · by_cases after : other.id < metric.id
    · exact .inr (.inl after)
    · have sameId : metric.id = other.id :=
        String.le_antisymm (String.not_lt.mp after) (String.not_lt.mp before)
      rcases String.le_total metric.kind.name other.kind.name with kindBefore | kindAfter
      · exact .inl (.inr ⟨sameId, kindBefore⟩)
      · exact .inr (.inr ⟨sameId.symm, kindAfter⟩)

/-- No two metrics of different series are listed in one place. -/
theorem pairwise_precedes_mergeSort {metrics : List Metric}
    (distinct : Distinct metrics) :
    (metrics.mergeSort Server.listedBefore).Pairwise Precedes := by
  have sorted : (metrics.mergeSort Server.listedBefore).Pairwise
      fun metric other => Server.listedBefore metric other = true :=
    @List.pairwise_mergeSort _ Server.listedBefore (fun _ _ _ => listedBefore_trans)
      listedBefore_total metrics
  have stillDistinct := distinct.of_perm (List.mergeSort_perm metrics Server.listedBefore)
  exact (sorted.and stillDistinct).imp fun both => precedes_of_listedBefore both.1 both.2

theorem eq_of_pairwise_precedes {metrics others : List Metric}
    (ordered : metrics.Pairwise Precedes) (alsoOrdered : others.Pairwise Precedes)
    (same : ∀ metric, metric ∈ metrics ↔ metric ∈ others) : metrics = others := by
  have nodup {metrics : List Metric} (ordered : metrics.Pairwise Precedes) : metrics.Nodup :=
    ordered.imp fun precedes same => (same ▸ precedes).asymm (same ▸ precedes)
  refine List.Perm.eq_of_pairwise ?_ ordered alsoOrdered
    ((List.perm_ext_iff_of_nodup (nodup ordered) (nodup alsoOrdered)).mpr same)
  exact fun metric other _ _ precedes follows => absurd follows precedes.asymm

theorem mergeSort_eq {metrics others : List Metric} (distinct : Distinct metrics)
    (alsoDistinct : Distinct others) (same : ∀ metric, metric ∈ metrics ↔ metric ∈ others) :
    metrics.mergeSort Server.listedBefore = others.mergeSort Server.listedBefore := by
  refine eq_of_pairwise_precedes (pairwise_precedes_mergeSort distinct)
    (pairwise_precedes_mergeSort alsoDistinct) fun metric => ?_
  rw [List.mem_mergeSort, List.mem_mergeSort, same]

theorem isSegment_line (valued : metric.valueText.isSome = true) :
    metric.IsSegment (metric.line ++ "\n") := by
  obtain ⟨value, isValue⟩ := Option.isSome_iff_exists.mp valued
  exact ⟨value, isValue, by rw [line, isValue, Option.getD_some]⟩

theorem segments_eq {metrics : List Metric} {segments : List String}
    (segmented : List.Forall₂ IsSegment metrics segments) :
    segments = metrics.map fun metric => metric.line ++ "\n" := by
  induction segmented with
  | nil => rfl
  | cons isSegment _ induction =>
      obtain ⟨value, isValue, rfl⟩ := isSegment
      rw [List.map_cons, ← induction, line, isValue, Option.getD_some]

end Metric

namespace Series

theorem isSome_valueText_metric (series : Series) (reading : series.Reading) :
    (series.metric reading).valueText.isSome = true := by
  cases series <;> rfl

theorem eq_of_sameSeries {series other : Series} {reading : series.Reading}
    {otherReading : other.Reading}
    (same : (series.metric reading).SameSeries (other.metric otherReading)) : series = other := by
  obtain ⟨sameId, sameKind⟩ := same
  rw [id_metric, id_metric] at sameId
  rw [kind_metric, kind_metric] at sameKind
  exact ext sameId sameKind

end Series

namespace Storage

/-- Two states in which the same is found. -/
def Agree (state other : Storage × Disk) : Prop :=
  ∀ query metric, backend.find query "" state = .ok metric ↔
    backend.find query "" other = .ok metric

/-- What storage tells of are the metrics that are found, one for each series. -/
structure Tells (state : Storage × Disk) (metrics : List Metric) : Prop where
  all : backend.all state = .ok metrics
  distinct : Metric.Distinct metrics
  valued : ∀ metric ∈ metrics, metric.valueText.isSome = true
  find_iff : ∀ query metric, backend.find query "" state = .ok metric ↔
    metric ∈ metrics ∧ metric.kind = query.kind ∧ metric.id = query.id

namespace Holds

variable {storage : Storage} {ledger : Ledger}

theorem find_iff (holds : storage.Holds ledger) (query metric : Metric) (disk : Disk) :
    backend.find query "" (storage, disk) = .ok metric ↔
      (∃ series reading, ledger.lookup series = some reading ∧
        series.metric (storage.reread series reading) = metric) ∧
      metric.kind = query.kind ∧ metric.id = query.id := by
  cases known : query.kind.isKnown with
  | false =>
      obtain ⟨name, unknown⟩ := Kind.exists_name known
      rw [find_unknown unknown]
      refine iff_of_false (fun found => by cases found) ?_
      rintro ⟨⟨series, reading, -, rfl⟩, sameKind, -⟩
      rw [Series.kind_metric, unknown] at sameKind
      cases series <;> cases sameKind
  | true =>
      obtain ⟨series, sameKind, sameId⟩ := Metric.exists_series known
      rw [holds.find_series sameKind sameId, sameKind, sameId]
      constructor
      · intro found
        cases reads : ledger.lookup series with
        | none =>
            rw [reads] at found
            cases found
        | some reading =>
            rw [reads] at found
            obtain rfl := Except.ok.inj found
            exact ⟨⟨series, reading, reads, rfl⟩, series.kind_metric _, series.id_metric _⟩
      · rintro ⟨⟨other, reading, reads, rfl⟩, isKind, isId⟩
        rw [Series.kind_metric] at isKind
        rw [Series.id_metric] at isId
        obtain rfl := Series.ext isId (congrArg Kind.name isKind)
        rw [reads]
        rfl

theorem exists_tells (holds : storage.Holds ledger) (disk : Disk) :
    ∃ metrics, Tells (storage, disk) metrics := by
  obtain ⟨metrics, all, nodup, mem_iff⟩ := holds.exists_all disk
  refine ⟨metrics, all, ?_, ?_, ?_⟩
  · refine nodup.pairwise_of_forall_ne ?_
    intro metric member other otherMember different same
    obtain ⟨series, reading, found, rfl⟩ := (mem_iff metric).mp member
    obtain ⟨otherSeries, otherReading, otherFound, rfl⟩ := (mem_iff other).mp otherMember
    obtain rfl := Series.eq_of_sameSeries same
    rw [found] at otherFound
    exact different (by rw [Option.some.inj otherFound])
  · intro metric member
    obtain ⟨series, reading, -, rfl⟩ := (mem_iff metric).mp member
    exact series.isSome_valueText_metric _
  · intro query metric
    rw [mem_iff]
    exact holds.find_iff query metric disk

end Holds

theorem Reachable.exists_tells {state : Storage × Disk} (reachable : Reachable state) :
    ∃ metrics, Tells state metrics := by
  obtain ⟨ledger, holds⟩ := reachable.exists_holds
  exact holds.exists_tells state.2

theorem Tells.mem_iff {state : Storage × Disk} {metrics : List Metric}
    (tells : Tells state metrics) (metric : Metric) :
    metric ∈ metrics ↔ backend.find metric "" state = .ok metric := by
  rw [tells.find_iff]
  simp

theorem Tells.agree_iff {state other : Storage × Disk} {metrics others : List Metric}
    (tells : Tells state metrics) (tellsOthers : Tells other others) :
    Agree state other ↔ ∀ metric, metric ∈ metrics ↔ metric ∈ others := by
  constructor
  · intro agree metric
    rw [tells.mem_iff, tellsOthers.mem_iff]
    exact agree metric metric
  · intro same query metric
    rw [tells.find_iff, tellsOthers.find_iff, same]

end Storage

namespace Server

open Storage

/-- The page of these segments. -/
def pageOf (segments : List String) : Response :=
  .withType 200 "text/html; charset=utf-8" (Bytes.ofText (String.join segments))

/-- Storage that tells of its metrics in any order. -/
def Reorders (backend : Backend (Storage × Disk)) (state : Storage × Disk) : Prop :=
  ∃ metrics told, Storage.backend.all state = .ok metrics ∧ backend.all state = .ok told ∧
    told.Perm metrics

theorem Settings.serve_page {settings : Settings} {request decoded : Request}
    {backend : Backend (Storage × Disk)} {state : Storage × Disk} (isGet : request.method = "GET")
    (atRoot : request.path = "/") (admitted : settings.admit request = .ok ())
    (decodes : settings.decode request = .ok decoded) :
    settings.serve backend request state = ((page backend state).compressedFor request, state) := by
  have endpoint : Endpoint.ofPath? "/" = some .listing := by decide
  have around (respond : Request → Storage × Disk → Response × (Storage × Disk)) :
      settings.around request respond state =
        ((respond decoded state).1.compressedFor request, (respond decoded state).2) := by
    simp only [Settings.around, admitted, bind, Except.bind, decodes]
  rw [serve, atRoot, endpoint, isGet]
  simp only [around]
  rfl

/-- The page of all metrics is a function of what is stored: it has a segment for every metric that
is found, with its value, in the order of ids and then of kinds. Whatever storage holds the same,
in whatever order it tells of it, every request that is let in is answered this page. -/
theorem Settings.serve_listing {state : Storage × Disk} (reachable : Reachable state) :
    ∃ metrics segments, metrics.Pairwise Metric.Precedes ∧
      (∀ query metric, Storage.backend.find query "" state = .ok metric ↔
        metric ∈ metrics ∧ metric.kind = query.kind ∧ metric.id = query.id) ∧
      List.Forall₂ Metric.IsSegment metrics segments ∧
      ∀ other, Reachable other → Agree state other → ∀ backend, Reorders backend other →
        ∀ (settings : Settings) (request decoded : Request), request.method = "GET" →
          request.path = "/" → settings.admit request = .ok () →
          settings.decode request = .ok decoded →
          settings.serve backend request other =
            ((pageOf segments).compressedFor request, other) := by
  obtain ⟨metrics, tells⟩ := reachable.exists_tells
  have mem_iff (metric : Metric) : metric ∈ metrics.mergeSort listedBefore ↔ metric ∈ metrics :=
    List.mem_mergeSort
  refine ⟨metrics.mergeSort listedBefore,
    (metrics.mergeSort listedBefore).map fun metric => metric.line ++ "\n",
    Metric.pairwise_precedes_mergeSort tells.distinct, ?_, ?_, ?_⟩
  · intro query metric
    rw [tells.find_iff, mem_iff]
  · rw [List.forall₂_map_right_iff, List.forall₂_same]
    exact fun metric member =>
      Metric.isSegment_line (tells.valued metric ((mem_iff metric).mp member))
  · intro other alsoReachable agree backend reorders settings request decoded isGet atRoot admitted
      decodes
    obtain ⟨others, tellsOthers⟩ := alsoReachable.exists_tells
    obtain ⟨listed, told, lists, answers, perm⟩ := reorders
    obtain rfl := Except.ok.inj (lists.symm.trans tellsOthers.all)
    have same : told.mergeSort listedBefore = metrics.mergeSort listedBefore :=
      Metric.mergeSort_eq (tellsOthers.distinct.of_perm perm) tells.distinct fun metric =>
        perm.mem_iff.trans ((tells.agree_iff tellsOthers).mp agree metric).symm
    rw [serve_page isGet atRoot admitted decodes, page, answers]
    show ((Response.withType 200 "text/html; charset=utf-8"
      (Bytes.ofText (listing told))).compressedFor request, other) = _
    rw [listing, same]
    rfl

def savedMetrics : List Metric :=
  [.gauge "b" (Binary64.ofNat 1), .counter "a" 2, .gauge "a" (Binary64.ofNat 3)]

def savedInFile : Storage × Disk :=
  (Storage.Event.called (.saveMany savedMetrics "")).happen (.file (.empty none ⟨0⟩), .empty)

def savedReversed : Storage × Disk :=
  (Storage.Event.called (.saveMany savedMetrics.reverse "")).happen (.keyValue .empty, .empty)

/-- It tells of its metrics the other way around. -/
def backwards : Backend (Storage × Disk) :=
  { Storage.backend with all := fun state => (Storage.backend.all state).map List.reverse }

def getPage : Request := ⟨"GET", "/", [], []⟩

def listedMetrics : List Metric :=
  [.counter "a" 2, .gauge "a" (Binary64.ofNat 3), .gauge "b" (Binary64.ofNat 1)]

theorem reachable_savedInFile : Reachable savedInFile := (Reachable.file none ⟨0⟩ .empty).happened _

theorem reachable_savedReversed : Reachable savedReversed :=
  (Reachable.keyValue .empty).happened _

theorem all_savedInFile : Storage.backend.all savedInFile =
    .ok [.gauge "a" (Binary64.ofNat 3), .gauge "b" (Binary64.ofNat 1), .counter "a" 2] := by
  decide +kernel

theorem all_savedReversed : Storage.backend.all savedReversed = .ok listedMetrics := by
  decide +kernel

theorem reorders_backwards : Reorders backwards savedReversed := by
  refine ⟨listedMetrics, listedMetrics.reverse, all_savedReversed, ?_, List.reverse_perm _⟩
  show (Storage.backend.all savedReversed).map List.reverse = _
  rw [all_savedReversed]
  rfl

theorem agree_saved : Agree savedInFile savedReversed := by
  obtain ⟨metrics, tells⟩ := reachable_savedInFile.exists_tells
  obtain ⟨others, tellsOthers⟩ := reachable_savedReversed.exists_tells
  obtain rfl := Except.ok.inj (tells.all.symm.trans all_savedInFile)
  obtain rfl := Except.ok.inj (tellsOthers.all.symm.trans all_savedReversed)
  exact (tells.agree_iff tellsOthers).mpr fun metric =>
    (List.perm_append_singleton (.counter "a" 2) listedMetrics.tail).mem_iff

theorem pairwise_precedes_listedMetrics : listedMetrics.Pairwise Metric.Precedes := by
  unfold Metric.Precedes
  decide +kernel

/-- A file and a store of records that tells of its metrics backwards have one page. -/
theorem serve_listing_saved :
    Reachable savedInFile ∧ Reachable savedReversed ∧ Agree savedInFile savedReversed ∧
      Reorders backwards savedReversed ∧
      plainSettings.serve backwards getPage savedReversed =
        ((pageOf ["a: 2\n", "a: 3\n", "b: 1\n"]).compressedFor getPage, savedReversed) := by
  refine ⟨reachable_savedInFile, reachable_savedReversed, agree_saved, reorders_backwards, ?_⟩
  obtain ⟨metrics, segments, ordered, finds, segmented, pages⟩ :=
    Settings.serve_listing reachable_savedInFile
  have isListed : metrics = listedMetrics := by
    refine Metric.eq_of_pairwise_precedes ordered pairwise_precedes_listedMetrics fun metric => ?_
    obtain ⟨others, tellsOthers⟩ := reachable_savedReversed.exists_tells
    obtain rfl := Except.ok.inj (tellsOthers.all.symm.trans all_savedReversed)
    have found := finds metric metric
    rw [agree_saved metric metric, ← tellsOthers.mem_iff] at found
    rw [found]
    simp
  obtain rfl := isListed
  have written : segments = ["a: 2\n", "a: 3\n", "b: 1\n"] := by
    rw [Metric.segments_eq segmented]
    decide +kernel
  rw [← written]
  exact pages savedReversed reachable_savedReversed agree_saved backwards reorders_backwards
    plainSettings getPage getPage rfl rfl rfl rfl

end Server

end Telemetry
