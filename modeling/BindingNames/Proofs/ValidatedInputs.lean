import BindingNames.Proofs.ConfigurationCheck
import BindingNames.Proofs.MissingRules
import Mathlib.Data.List.Forall2

/-!
What a check promises to a run. Headers are searched by one way for the check and for the run, so
the headers that are complained about are those that are not found, and none is dropped behind a
check without complaints. A search ends at the first path that the disk has no answer for, also where
a header stands at a later one. The rules are looked for where the check saw them, since a path is
given back by its text.
-/

namespace BindingNames

/-- Whether the disk says that there is something where a path leads. -/
def Disk.shows (d : Disk) (p : Path) : Bool :=
  (d.has p).toOption == some true

theorem Disk.shows_of_has {d : Disk} {p : Path} {there : Bool} (h : d.has p = .ok there) :
    d.shows p = there := by
  rw [shows, h]
  cases there <;> rfl

theorem Disk.not_shows_of_error {d : Disk} {p : Path} {fault : FileFault}
    (h : d.has p = .error fault) : d.shows p = false := by
  rw [shows, h]
  rfl

/-- A search comes to the first path that the disk shows if it answers for all paths before. -/
theorem Library.LinkFlags.firstPresent_eq_find?_iff {d : Disk} {paths : List Path} :
    firstPresent d.has paths = .ok (paths.find? d.shows) ↔
      ∀ p ∈ paths.takeWhile fun p => !d.shows p, (d.has p).isOk := by
  induction paths with
  | nil => simp [firstPresent]
  | cons p rest ih =>
      cases hp : d.has p with
      | error fault => simp [firstPresent, hp, Disk.not_shows_of_error hp]
      | ok there =>
          have hshows := Disk.shows_of_has hp
          cases there with
          | true => simp [firstPresent, hp, hshows]
          | false => simp [firstPresent, hp, hshows, ih]

namespace Configuration

open Library.LinkFlags (firstPresent)

variable {d : Disk} {c : Configuration} {base : Text} {headers : List Text}

/-- The settings that name files are of the kinds they should be. -/
structure IsTyped (c : Configuration) (headers : List Text) : Prop where
  base : ∃ base, c.baseDir = .text base
  headers : c.headers.members? = some (headers.map Value.text)
  includes : ∀ v ∈ c.includePaths, ∃ s, v = .text s
  rules : ∃ fields, c.rulesSource.bare = .map fields
  style : ∃ s, c.nameStyle = .text s

/-- What a search along paths comes to: the first path where something is, nothing if nothing is
anywhere, or the failure of the disk to answer for a path before. -/
inductive Searches (d : Disk) : List Path → Except Failure (Option Path) → Prop where
  | found {front rest : List Path} {p : Path} (hfront : ∀ q ∈ front, d.has q = .ok false)
      (hp : d.has p = .ok true) : Searches d (front ++ p :: rest) (.ok (some p))
  | nowhere {paths : List Path} (h : ∀ q ∈ paths, d.has q = .ok false) : Searches d paths (.ok none)
  | unanswered {front rest : List Path} {p : Path} {fault : FileFault}
      (hfront : ∀ q ∈ front, d.has q = .ok false) (hp : d.has p = .error fault) :
      Searches d (front ++ p :: rest) (.error (.file fault))

/-! ### Headers -/

theorem Searches.cons {paths : List Path} {p : Path} {r : Except Failure (Option Path)}
    (hp : d.has p = .ok false) (h : Searches d paths r) : Searches d (p :: paths) r := by
  cases h with
  | found hfront hq => exact .found (List.forall_mem_cons.mpr ⟨hp, hfront⟩) hq
  | nowhere h => exact .nowhere (List.forall_mem_cons.mpr ⟨hp, h⟩)
  | unanswered hfront hq => exact .unanswered (List.forall_mem_cons.mpr ⟨hp, hfront⟩) hq

theorem searches_firstPresent (d : Disk) (paths : List Path) :
    Searches d paths ((firstPresent d.has paths).mapError Failure.file) := by
  induction paths with
  | nil => exact .nowhere (by simp)
  | cons p rest ih =>
      rw [firstPresent]
      cases hp : d.has p with
      | error fault => exact .unanswered (List.forall_mem_nil _) hp
      | ok there =>
          cases there with
          | true => exact .found (List.forall_mem_nil _) hp
          | false => exact ih.cons hp

theorem firstPresent_append {front rest : List Path} (hfront : ∀ q ∈ front, d.has q = .ok false) :
    firstPresent d.has (front ++ rest) = firstPresent d.has rest := by
  induction front with
  | nil => rfl
  | cons q front ih =>
      obtain ⟨hq, hfront⟩ := List.forall_mem_cons.mp hfront
      rw [List.cons_append, firstPresent, hq]
      exact ih hfront

theorem Searches.eq {paths : List Path} {r : Except Failure (Option Path)}
    (h : Searches d paths r) : (firstPresent d.has paths).mapError Failure.file = r := by
  cases h with
  | found hfront hp | unanswered hfront hp => rw [firstPresent_append hfront, firstPresent, hp]; rfl
  | nowhere h =>
      rw [← List.append_nil paths, firstPresent_append h]
      rfl

theorem findHeader_eq_iff (hc : c.IsTyped headers) (h : Text) (r : Except Failure (Option Path)) :
    c.findHeader d (.text h) = r ↔ Searches d (c.candidates h) r := by
  obtain ⟨base, hbase⟩ := hc.base
  rw [findHeader_text hbase hc.includes]
  constructor
  · rintro rfl
    exact searches_firstPresent d _
  · exact Searches.eq

theorem findHeader_eq_find?_iff (hc : c.IsTyped headers) (h : Text) :
    c.findHeader d (.text h) = .ok ((c.candidates h).find? d.shows) ↔
      ∀ q ∈ (c.candidates h).takeWhile fun q => !d.shows q, (d.has q).isOk := by
  obtain ⟨base, hbase⟩ := hc.base
  rw [findHeader_text hbase hc.includes, mapError_eq_ok_iff,
    Library.LinkFlags.firstPresent_eq_find?_iff]

theorem IsTyped.headerList_eq (hc : c.IsTyped headers) :
    c.headerList = .ok (headers.map Value.text) :=
  headerList_eq_ok_iff.mpr hc.headers

/-! ### Complaints -/

/-- Whether a header is looked for everywhere and found nowhere. -/
def isLost (d : Disk) (c : Configuration) (header : Text) : Bool :=
  (c.findHeader d (.text header)).toOption == some none

theorem headerComplaints_eq_ok {missing : List Text}
    (h : headerComplaints d c (headers.map Value.text) = .ok missing) :
    missing = (headers.filter (c.isLost d)).map fun s => notFoundText (.text s) := by
  induction headers generalizing missing with
  | nil => exact (Except.ok.inj h).symm
  | cons s headers ih =>
      rw [List.map_cons, headerComplaints] at h
      obtain ⟨found, hfound, h⟩ := bind_eq_ok_iff.mp h
      obtain ⟨others, hothers, h⟩ := bind_eq_ok_iff.mp h
      obtain rfl := ih hothers
      rw [← Except.ok.inj h]
      cases found with
      | none =>
          have hlost : c.isLost d s := by simp [isLost, hfound, Except.toOption]
          rw [List.filter_cons_of_pos hlost]
          rfl
      | some p =>
          have hlost : ¬ c.isLost d s := by simp [isLost, hfound, Except.toOption]
          rw [List.filter_cons_of_neg hlost]
          rfl

def saysNotFound (complaint : Text) : Bool :=
  Text.beginsWith complaint "Header not found: "

theorem saysNotFound_notFoundText (v : Value) : saysNotFound (notFoundText v) :=
  List.isPrefixOf_iff_prefix.mpr (List.prefix_append _ _)

theorem saysNotFound_of_styleComplaints {styles : List Text} (h : c.styleComplaints = .ok styles) :
    ∀ s ∈ styles, saysNotFound s = false := by
  unfold styleComplaints at h
  split at h
  · rw [← Except.ok.inj h]
    simp
  · rw [← Except.ok.inj h]
    exact List.forall_mem_singleton.mpr rfl
  · contradiction

theorem saysNotFound_of_rulesComplaints {rules : List Text} (h : c.rulesComplaints d = .ok rules) :
    ∀ s ∈ rules, saysNotFound s = false := by
  obtain ⟨path, -, h⟩ := bind_eq_ok_iff.mp h
  split at h
  · rw [← Except.ok.inj h]
    simp
  · obtain ⟨p, -, h⟩ := bind_eq_ok_iff.mp h
    obtain ⟨there, -, h⟩ := bind_eq_ok_iff.mp h
    split at h
    · rw [← Except.ok.inj h]
      simp
    · rw [← Except.ok.inj h]
      exact List.forall_mem_singleton.mpr rfl

/-- What a check consists of. -/
theorem exists_of_validate {complaints : List Text} (hc : c.IsTyped headers)
    (h : (c.validate d).result = .ok complaints) :
    ∃ required styles missing rules : List Text, c.styleComplaints = .ok styles ∧
      headerComplaints d c (headers.map Value.text) = .ok missing ∧
      c.rulesComplaints d = .ok rules ∧ (∀ s ∈ required, saysNotFound s = false) ∧
      complaints = required ++ styles ++ missing ++ rules := by
  simp only [validate, Logged.result_bind, Logged.result_lift, Logged.result_pure,
    hc.headerList_eq, ok_bind] at h
  obtain ⟨styles, hstyles, h⟩ := bind_eq_ok_iff.mp h
  obtain ⟨-, -, h⟩ := bind_eq_ok_iff.mp h
  obtain ⟨missing, hmissing, h⟩ := bind_eq_ok_iff.mp h
  obtain ⟨rules, hrules, h⟩ := bind_eq_ok_iff.mp h
  refine ⟨_, styles, missing, rules, hstyles, hmissing, hrules, ?_, (Except.ok.inj h).symm⟩
  split
  · simp
  · exact List.forall_mem_singleton.mpr rfl

/-- Of the complaints, those about headers that are not found are about those that are lost. -/
theorem filter_saysNotFound {complaints : List Text} (hc : c.IsTyped headers)
    (h : (c.validate d).result = .ok complaints) :
    complaints.filter saysNotFound =
      (headers.filter (c.isLost d)).map fun s => notFoundText (.text s) := by
  obtain ⟨required, styles, missing, rules, hstyles, hmissing, hrules, hrequired, rfl⟩ :=
    exists_of_validate hc h
  have hnone {ss : List Text} (hss : ∀ s ∈ ss, saysNotFound s = false) :
      ss.filter saysNotFound = [] :=
    List.filter_eq_nil_iff.mpr fun s hs => by simp [hss s hs]
  have hall : missing.filter saysNotFound = missing := by
    rw [headerComplaints_eq_ok hmissing]
    refine List.filter_eq_self.mpr fun s hs => ?_
    obtain ⟨header, -, rfl⟩ := List.mem_map.mp hs
    exact saysNotFound_notFoundText _
  rw [List.filter_append, List.filter_append, List.filter_append, hnone hrequired,
    hnone (saysNotFound_of_styleComplaints hstyles), hall,
    hnone (saysNotFound_of_rulesComplaints hrules), headerComplaints_eq_ok hmissing]
  simp

theorem isOk_validate_iff_of_isTyped (hc : c.IsTyped headers) :
    (c.validate d).result.isOk ↔
      (∀ s, .text s ∈ c.includePaths → (d.has (c.seen s)).isOk) ∧
      (∀ s ∈ headers, (c.findHeader d (.text s)).isOk) ∧ CanLocateRules d c := by
  obtain ⟨base, hbase⟩ := hc.base
  obtain ⟨style, hstyle⟩ := hc.style
  rw [isOk_validate_iff hbase]
  constructor
  · rintro ⟨-, hincludes, ⟨vs, hvs, hsearch⟩, hrules⟩
    obtain rfl := Option.some.inj (hc.headers.symm.trans hvs)
    refine ⟨fun s hs => ?_, fun s hs => ?_, hrules⟩
    · obtain ⟨t, ht, hhas⟩ := hincludes _ hs
      obtain rfl : s = t := Scalar.text.inj (Value.scalar.inj ht)
      exact hhas
    · exact (isOk_findHeader_iff hbase hc.includes).mpr (hsearch _ (List.mem_map_of_mem hs))
  · rintro ⟨hincludes, hsearch, hrules⟩
    refine ⟨by rw [hstyle]; rfl, fun v hv => ?_, ⟨_, hc.headers, fun v hv => ?_⟩, hrules⟩
    · obtain ⟨s, rfl⟩ := hc.includes v hv
      exact ⟨s, rfl, hincludes s hv⟩
    · obtain ⟨s, hs, rfl⟩ := List.mem_map.mp hv
      exact (isOk_findHeader_iff hbase hc.includes).mp (hsearch s hs)

/-! ### Header files -/

/-- Headers that are all found give their absolute paths, and nothing is said. -/
theorem filesOf_eq {vs : List Value} {ps : List Path}
    (h : List.Forall₂ (fun v p => c.findHeader d v = .ok (some p)) vs ps) :
    filesOf d c vs = ⟨[], .ok (ps.map d.absolute)⟩ := by
  induction h with
  | nil => rfl
  | cons hv _ ih =>
      rw [filesOf, hv, ih]
      rfl

theorem exists_found (h : headerComplaints d c (headers.map Value.text) = .ok []) :
    ∃ ps, List.Forall₂ (fun s p => c.findHeader d (.text s) = .ok (some p)) headers ps := by
  induction headers with
  | nil => exact ⟨[], .nil⟩
  | cons s headers ih =>
      rw [List.map_cons, headerComplaints] at h
      obtain ⟨found, hfound, h⟩ := bind_eq_ok_iff.mp h
      obtain ⟨others, hothers, h⟩ := bind_eq_ok_iff.mp h
      cases found with
      | none => cases Except.ok.inj h
      | some p =>
          obtain rfl : others = [] := Except.ok.inj h
          obtain ⟨ps, hps⟩ := ih hothers
          exact ⟨p :: ps, .cons hfound hps⟩

def foundEntry (count : Nat) : Entry :=
  ⟨logger, Level.debug, "Found " ++ Text.ofNat count ++ " header files"⟩

theorem headerFiles_eq (hc : c.IsTyped headers) {ps : List Path}
    (h : List.Forall₂ (fun s p => c.findHeader d (.text s) = .ok (some p)) headers ps) :
    c.headerFiles d = ⟨[foundEntry headers.length], .ok (ps.map d.absolute)⟩ := by
  have hfiles := filesOf_eq (d := d) (List.forall₂_map_left_iff.mpr h)
  have hlength : (ps.map d.absolute).length = headers.length := by
    rw [List.length_map, h.length_eq]
  rw [headerFiles, hc.headerList_eq]
  change (filesOf d c (headers.map Value.text) >>= fun paths =>
    Logged.write [foundEntry paths.length] >>= fun _ => pure paths) = _
  rw [hfiles, ← hlength]
  rfl

/-! ### Rules -/

theorem exists_there_of_rulesComplaints {fields : Fields} {v : Value}
    (hbase : c.baseDir = .text base) (hholds : c.rulesSource.holds)
    (hbare : c.rulesSource.bare = .map fields)
    (hpath : Value.get? (.text "path") fields = some v) (hv : v.holds)
    (h : c.rulesComplaints d = .ok []) : ∃ s, v = .text s ∧ d.has (c.seen s) = .ok true := by
  obtain ⟨path, hrulesPath, h⟩ := bind_eq_ok_iff.mp h
  have hvalue : c.rulesPath = .ok v := by simp [rulesPath, hholds, hbare, hpath]
  obtain rfl : v = path := Except.ok.inj (hvalue.symm.trans hrulesPath)
  simp only [hv, Bool.not_true, Bool.false_eq_true, if_false] at h
  obtain ⟨p, hp, h⟩ := bind_eq_ok_iff.mp h
  obtain ⟨there, hthere, h⟩ := bind_eq_ok_iff.mp h
  obtain ⟨s, rfl⟩ := exists_text_of_placed (isOk_iff.mpr ⟨p, hp⟩)
  rw [placed_text hbase] at hp
  obtain rfl := Except.ok.inj hp
  refine ⟨s, rfl, ?_⟩
  cases there with
  | true => exact mapError_eq_ok_iff.mp hthere
  | false => cases Except.ok.inj h

/-- Rules that the check has seen are there when they are loaded. -/
theorem exists_placedSource (hc : c.IsTyped headers) (h : c.rulesComplaints d = .ok []) :
    ∃ source, c.placedSource = .ok source ∧
      ∀ missing, (RuleSource.load d source).result ≠ .error (.rulesMissing missing) := by
  obtain ⟨base, hbase⟩ := hc.base
  obtain ⟨fields, hbare⟩ := hc.rules
  cases hholds : c.rulesSource.holds with
  | false =>
      refine ⟨[], by simp [placedSource, hholds], fun missing hload => ?_⟩
      obtain ⟨s, hs, -⟩ := has_of_load_eq_rulesMissing hload
      cases hs
  | true =>
      have hplaced := placedSource_of_bare hholds hbare
      cases hpath : Value.get? (.text "path") fields with
      | none =>
          rw [hpath] at hplaced
          refine ⟨fields, hplaced, fun missing hload => ?_⟩
          obtain ⟨s, hs, -⟩ := has_of_load_eq_rulesMissing hload
          rw [RuleSource.field, hpath] at hs
          cases hs
      | some v =>
          cases hv : v.holds with
          | false =>
              simp only [hpath, hv, Bool.false_eq_true, if_false] at hplaced
              refine ⟨fields, hplaced, fun missing hload => ?_⟩
              obtain ⟨s, hs, hne, -⟩ := has_of_load_eq_rulesMissing hload
              rw [RuleSource.field, hpath] at hs
              obtain rfl : v = .text s := hs
              rw [holds_text_iff.mpr hne] at hv
              contradiction
          | true =>
              obtain ⟨s, rfl, hthere⟩ :=
                exists_there_of_rulesComplaints hbase hholds hbare hpath hv h
              simp only [hpath, hv, if_true, placed_text hbase, ok_bind] at hplaced
              refine ⟨_, hplaced, fun missing hload => ?_⟩
              obtain ⟨t, ht, -, hhas, -⟩ := has_of_load_eq_rulesMissing hload
              rw [RuleSource.field, Value.get?_put_self] at ht
              obtain rfl : (c.seen s).toText = t := Scalar.text.inj (Value.scalar.inj ht)
              rw [Path.ofText_toText (isProper_seen hbase s), hthere] at hhas
              contradiction

/-! ### The promise -/

/-- A header is at the first of its candidates that is there, exactly if the disk answers for those
before; otherwise the search fails with the first one that it does not answer for. The headers that
are complained about are those without a place. A check without complaints promises that all headers
are listed without a warning and that the rules are there to be loaded. -/
theorem validate_promises (hc : c.IsTyped headers) :
    (∀ h r, c.findHeader d (.text h) = r ↔ Searches d (c.candidates h) r) ∧
      (∀ h, c.findHeader d (.text h) = .ok ((c.candidates h).find? d.shows) ↔
        ∀ q ∈ (c.candidates h).takeWhile fun q => !d.shows q, (d.has q).isOk) ∧
      ((c.validate d).result.isOk ↔
        (∀ s, .text s ∈ c.includePaths → (d.has (c.seen s)).isOk) ∧
        (∀ s ∈ headers, (c.findHeader d (.text s)).isOk) ∧ CanLocateRules d c) ∧
      (∀ complaints, (c.validate d).result = .ok complaints →
        complaints.filter saysNotFound =
          (headers.filter (c.isLost d)).map fun s => notFoundText (.text s)) ∧
      ((c.validate d).result = .ok [] →
        (∃ ps, List.Forall₂ (fun s p => c.findHeader d (.text s) = .ok (some p)) headers ps ∧
          c.headerFiles d = ⟨[foundEntry headers.length], .ok (ps.map d.absolute)⟩) ∧
        ∃ source, c.placedSource = .ok source ∧
          ∀ missing, (RuleSource.load d source).result ≠ .error (.rulesMissing missing)) := by
  refine ⟨findHeader_eq_iff hc, findHeader_eq_find?_iff hc, isOk_validate_iff_of_isTyped hc,
    fun complaints => filter_saysNotFound hc, fun h => ?_⟩
  obtain ⟨required, styles, missing, rules, -, hmissing, hrules, -, heq⟩ := exists_of_validate hc h
  obtain ⟨rfl, rfl, rfl, rfl⟩ : required = [] ∧ styles = [] ∧ missing = [] ∧ rules = [] := by
    simpa [and_assoc] using heq
  obtain ⟨ps, hps⟩ := exists_found hmissing
  exact ⟨⟨ps, hps, headerFiles_eq hc hps⟩, exists_placedSource hc hrules⟩

/-- One header is beside the configuration and one in an include directory. With another include
path in front, whose name is too long to be asked about, the second header is not found although it
is there. -/
theorem validate_promises_long_include :
    let d : Disk := ⟨["w"], [(["w"], .directory), (["w", "p"], .directory),
      (["w", "inc"], .directory), (["w", "p", "a.h"], .text ""), (["w", "inc", "b.h"], .text ""),
      (["w", "p", "r.csv"], .text "match,directive")]⟩
    let c : List Value → Configuration := fun includes => { (default : Configuration) with
      headers := .list [.text "a.h", .text "b.h"]
      includePaths := includes
      rulesSource := .map [(.text "type", .text "csv"), (.text "path", .text "r.csv")]
      nameStyle := .text "none"
      baseDir := .text "p" }
    let short := c [.text "../inc"]
    let long := c [.text (List.replicate 256 'a'), .text "../inc"]
    let there : Path := .ofText "p/../inc/b.h"
    short.IsTyped ["a.h", "b.h"] ∧ (short.validate d).result = .ok [] ∧
      short.findHeader d (.text "b.h") = .ok (some there) ∧
      (short.headerFiles d).log = [foundEntry 2] ∧
      (∃ source, short.placedSource = .ok source ∧
        ∀ missing, (RuleSource.load d source).result ≠ .error (.rulesMissing missing)) ∧
      long.IsTyped ["a.h", "b.h"] ∧ (long.candidates "b.h").find? d.shows = some there ∧
      long.findHeader d (.text "b.h") ≠ .ok (some there) := by
  intro d c short long there
  have hshort : short.IsTyped ["a.h", "b.h"] := by
    refine ⟨⟨_, rfl⟩, rfl, ?_, ⟨_, rfl⟩, ⟨_, rfl⟩⟩
    exact List.forall_mem_singleton.mpr ⟨_, rfl⟩
  have hlong : long.IsTyped ["a.h", "b.h"] := by
    refine ⟨⟨_, rfl⟩, rfl, ?_, ⟨_, rfl⟩, ⟨_, rfl⟩⟩
    exact List.forall_mem_cons.mpr ⟨⟨_, rfl⟩, List.forall_mem_singleton.mpr ⟨_, rfl⟩⟩
  have hvalid : (short.validate d).result = .ok [] := eq_ok_of_toOption (by decide +kernel)
  obtain ⟨hfind, -, -, -, hpromise⟩ := validate_promises (d := d) hshort
  obtain ⟨⟨ps, -, hfiles⟩, hsource⟩ := hpromise hvalid
  have hcandidates :
      short.candidates "b.h" = [.ofText "p/b.h"] ++ there :: [] := by decide +kernel
  have hfound : short.findHeader d (.text "b.h") = .ok (some there) := by
    rw [hfind, hcandidates]
    refine .found (List.forall_mem_singleton.mpr ?_) ?_
    all_goals exact eq_ok_of_toOption (by decide +kernel)
  obtain ⟨-, hfirst, -⟩ := validate_promises (d := d) hlong
  have hthere : (long.candidates "b.h").find? d.shows = some there := by decide +kernel
  have hunanswered : ¬ ∀ q ∈ (long.candidates "b.h").takeWhile fun q => !d.shows q,
      (d.has q).isOk := by
    decide +kernel
  refine ⟨hshort, hvalid, hfound, by rw [hfiles]; rfl, hsource, hlong, hthere, ?_⟩
  rw [← hthere]
  exact mt (hfirst "b.h").mp hunanswered

end Configuration

end BindingNames
