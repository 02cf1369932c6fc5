import BindingNames.Library.Reader
import BindingNames.Proofs.Outcomes
import Mathlib.Data.List.Basic

/-!
The search for library files. Linker flags are a sequence of items: directories, names of libraries,
files and others. The flags of the items give the files first, as they come, and then one file for
each name that has any: the first one there is, going through the directories and in each of them
through the endings. A name without a file leaves one warning. Directories are collected before the
search begins, so it does not matter where among the other items they stand.
-/

namespace BindingNames.Library

open LinkFlags (directoryMark nameMark endings)

/-- What linker flags are made of. A directory may be attached to its mark, unless it is empty, or
stand apart from it. -/
inductive LinkItem where
  | attached (directory : Text) (ne_nil : directory ≠ [])
  | apart (directory : Text)
  | library (name : Text)
  | file (path : Text) (no_directory : Text.beginsWith path directoryMark = false)
      (no_name : Text.beginsWith path nameMark = false)
      (isFile : endings.any (Text.endsWith path) = true)
  | other (flag : Text) (no_directory : Text.beginsWith flag directoryMark = false)
      (no_name : Text.beginsWith flag nameMark = false)
      (no_file : endings.any (Text.endsWith flag) = false)

namespace LinkItem

def flags : LinkItem → List Text
  | .attached directory _ => [directoryMark ++ directory]
  | .apart directory => [directoryMark, directory]
  | .library name => [nameMark ++ name]
  | .file path _ _ _ => [path]
  | .other flag _ _ _ => [flag]

def directory? : LinkItem → Option Text
  | .attached directory _ | .apart directory => some directory
  | _ => none

def name? : LinkItem → Option Text
  | .library name => some name
  | _ => none

def file? : LinkItem → Option Text
  | .file path _ _ _ => some path
  | _ => none

def isDirectory (i : LinkItem) : Bool :=
  i.directory?.isSome

theorem name?_of_isDirectory {i : LinkItem} (h : i.isDirectory) : i.name? = none := by
  cases i <;> simp_all [isDirectory, directory?, name?]

theorem file?_of_isDirectory {i : LinkItem} (h : i.isDirectory) : i.file? = none := by
  cases i <;> simp_all [isDirectory, directory?, file?]

end LinkItem

def written (items : List LinkItem) : List Text :=
  items.flatMap LinkItem.flags

def directoriesOf (base : Path) (items : List LinkItem) : List Path :=
  (items.filterMap LinkItem.directory?).map fun s => base.join (.ofText s)

def namesOf (items : List LinkItem) : List Text :=
  items.filterMap LinkItem.name?

def filesOf (base : Path) (items : List LinkItem) : List Path :=
  (items.filterMap LinkItem.file?).map fun s => base.join (.ofText s)

/-- Where a library may be in a directory. -/
def placeIn (directory : Path) (name ending : Text) : Path :=
  directory.join (.ofText ("lib" ++ name ++ ending))

/-- What the search for a library finds among the files that are there: the first one, directory by
directory and in each of them ending by ending, or nothing. -/
inductive FindsFirst (there : Path → Bool) (directories : List Path) (name : Text) :
    Option Path → Prop where
  | found {before after : List Path} {directory : Path} {tried untried : List Text} {ending : Text}
      (hdirectories : directories = before ++ directory :: after)
      (hendings : endings = tried ++ ending :: untried)
      (hbefore : ∀ d ∈ before, ∀ e ∈ endings, there (placeIn d name e) = false)
      (htried : ∀ e ∈ tried, there (placeIn directory name e) = false)
      (hthere : there (placeIn directory name ending) = true) :
      FindsFirst there directories name (some (placeIn directory name ending))
  | missing (h : ∀ d ∈ directories, ∀ e ∈ endings, there (placeIn d name e) = false) :
      FindsFirst there directories name none

def missingEntry (name : Text) : Entry :=
  ⟨logger, Level.warning, "Library not found in -L paths, skipping: -l" ++ name⟩

/-! ### Flags -/

namespace LinkFlags

variable (base : Path)

theorem addFlag_directory (directory : Text) (x : LinkFlags) :
    addFlag base (directoryMark ++ directory) x = addDirectory base directory x := by
  rw [addFlag, if_pos (Text.beginsWith_append _ _)]
  rfl

theorem addFlag_name (name : Text) (x : LinkFlags) :
    addFlag base (nameMark ++ name) x = { x with names := name :: x.names } := by
  have hdirectory : Text.beginsWith (nameMark ++ name) directoryMark = false := rfl
  rw [addFlag, hdirectory, if_neg Bool.false_ne_true, if_pos (Text.beginsWith_append _ _)]
  rfl

theorem ofFlags_cons_of_ne {flag : Text} (h : flag ≠ directoryMark) (rest : List Text) :
    ofFlags base (flag :: rest) = addFlag base flag (ofFlags base rest) := by
  cases rest with
  | nil => rfl
  | cons next rest => rw [ofFlags, if_neg (by simpa using h)]

theorem ofFlags_apart (directory : Text) (rest : List Text) :
    ofFlags base (directoryMark :: directory :: rest) =
      addDirectory base directory (ofFlags base rest) := by
  rw [ofFlags, if_pos (beq_self_eq_true _)]

theorem ne_directoryMark {flag : Text} (h : Text.beginsWith flag directoryMark = false) :
    flag ≠ directoryMark := by
  rintro rfl
  rw [Text.beginsWith_iff.mpr List.prefix_rfl] at h
  contradiction

/-- The flags of some items say what the items do, each kind in order. -/
theorem ofFlags_written (items : List LinkItem) :
    ofFlags base (written items) =
      ⟨directoriesOf base items, namesOf items, filesOf base items⟩ := by
  induction items with
  | nil => rfl
  | cons i rest ih =>
      cases i with
      | attached directory ne_nil =>
          have hne : directoryMark ++ directory ≠ directoryMark := by simpa using ne_nil
          show ofFlags base ((directoryMark ++ directory) :: written rest) = _
          rw [ofFlags_cons_of_ne base hne, addFlag_directory, ih]
          rfl
      | apart directory =>
          show ofFlags base (directoryMark :: directory :: written rest) = _
          rw [ofFlags_apart, ih]
          rfl
      | library name =>
          show ofFlags base ((nameMark ++ name) :: written rest) = _
          rw [ofFlags_cons_of_ne base (ne_directoryMark rfl), addFlag_name, ih]
          rfl
      | file path no_directory no_name isFile =>
          show ofFlags base (path :: written rest) = _
          rw [ofFlags_cons_of_ne base (ne_directoryMark no_directory), ih]
          simp only [addFlag, no_directory, no_name, isFile]
          rfl
      | other flag no_directory no_name no_file =>
          show ofFlags base (flag :: written rest) = _
          rw [ofFlags_cons_of_ne base (ne_directoryMark no_directory), ih]
          simp only [addFlag, no_directory, no_name, no_file]
          rfl

end LinkFlags

/-- A flag that is not the mark of a directory is an item by itself. -/
theorem exists_flags_eq {flag : Text} (h : flag ≠ directoryMark) :
    ∃ i : LinkItem, i.flags = [flag] := by
  cases hdirectory : Text.beginsWith flag directoryMark with
  | true =>
      have hflag := Text.append_drop_of_beginsWith hdirectory
      have hne : flag.drop directoryMark.length ≠ [] := by
        intro hnil
        rw [hnil, List.append_nil] at hflag
        exact h hflag.symm
      exact ⟨.attached _ hne, congrArg (fun s => [s]) hflag⟩
  | false =>
      cases hname : Text.beginsWith flag nameMark with
      | true => exact ⟨.library _, congrArg (fun s => [s]) (Text.append_drop_of_beginsWith hname)⟩
      | false =>
          cases hfile : endings.any (Text.endsWith flag) with
          | true => exact ⟨.file flag hdirectory hname hfile, rfl⟩
          | false => exact ⟨.other flag hdirectory hname hfile, rfl⟩

/-- All flags are those of some items, except that a mark may stand alone behind them. -/
theorem exists_written (flags : List Text) :
    ∃ items, flags = written items ∨ flags = written items ++ [directoryMark] := by
  have hcons : ∀ (i : LinkItem) {rest : List Text},
      (∃ items, rest = written items ∨ rest = written items ++ [directoryMark]) →
        ∃ items, i.flags ++ rest = written items ∨
          i.flags ++ rest = written items ++ [directoryMark] := by
    rintro i rest ⟨items, rfl | rfl⟩
    · exact ⟨i :: items, .inl rfl⟩
    · exact ⟨i :: items, .inr (List.append_assoc _ _ _).symm⟩
  induction flags using LinkFlags.ofFlags.induct with
  | case1 => exact ⟨[], .inl rfl⟩
  | case2 flag =>
      by_cases hflag : flag = directoryMark
      · exact ⟨[], .inr (congrArg (fun s => [s]) hflag)⟩
      · obtain ⟨i, hi⟩ := exists_flags_eq hflag
        exact ⟨[i], .inl (hi.symm.trans (List.append_nil _).symm)⟩
  | case3 flag next rest hflag ih =>
      rw [eq_of_beq hflag]
      exact hcons (.apart next) ih
  | case4 flag next rest hflag ih =>
      obtain ⟨i, hi⟩ := exists_flags_eq fun heq => hflag (beq_iff_eq.mpr heq)
      have hrest := hcons i ih
      rwa [hi] at hrest

/-! ### Places -/

namespace LinkFlags

theorem candidates_cons (directory : Path) (directories : List Path) (name : Text) :
    candidates (directory :: directories) name =
      endings.map (placeIn directory name) ++ candidates directories name := rfl

theorem mem_candidates {directories : List Path} {name : Text} {p : Path} :
    p ∈ candidates directories name ↔
      ∃ d ∈ directories, ∃ e ∈ endings, p = placeIn d name e := by
  simp only [candidates, placeIn, List.mem_flatMap, List.mem_map, @eq_comm _ p]

/-- A disk that says of every path what is there finds the first path that is. -/
theorem firstPresent_eq {present : Path → Except FileFault Bool} {there : Path → Bool}
    {paths : List Path} (h : ∀ p ∈ paths, present p = .ok (there p)) :
    firstPresent present paths = .ok (paths.find? there) := by
  induction paths with
  | nil => rfl
  | cons p rest ih =>
      obtain ⟨hp, hrest⟩ := List.forall_mem_cons.mp h
      cases hthere : there p with
      | true => rw [firstPresent, hp, hthere, List.find?_cons_of_pos hthere]
      | false =>
          rw [firstPresent, hp, hthere, List.find?_cons_of_neg (by simp [hthere])]
          exact ih hrest

end LinkFlags

theorem findsFirst_find? (there : Path → Bool) (directories : List Path) (name : Text) :
    FindsFirst there directories name ((LinkFlags.candidates directories name).find? there) := by
  induction directories with
  | nil => exact .missing (by simp)
  | cons directory directories ih =>
      rw [LinkFlags.candidates_cons, List.find?_append, List.find?_map]
      cases hfirst : endings.find? (there ∘ placeIn directory name) with
      | some ending =>
          obtain ⟨hthere, tried, untried, hendings, htried⟩ :=
            List.find?_eq_some_iff_append.mp hfirst
          exact .found (List.nil_append _).symm hendings (by simp) (by simpa using htried) hthere
      | none =>
          have hnone : ∀ e ∈ endings, there (placeIn directory name e) = false := by
            simpa using hfirst
          rw [Option.map_none, Option.none_or]
          generalize (LinkFlags.candidates directories name).find? there = p at ih
          cases ih with
          | missing h => exact .missing (List.forall_mem_cons.mpr ⟨hnone, h⟩)
          | found hdirectories hendings hbefore htried hthere =>
              exact .found (congrArg (directory :: ·) hdirectories) hendings
                (List.forall_mem_cons.mpr ⟨hnone, hbefore⟩) htried hthere

theorem FindsFirst.eq_find? {there : Path → Bool} {directories : List Path} {name : Text}
    {p : Option Path} (h : FindsFirst there directories name p) :
    p = (LinkFlags.candidates directories name).find? there := by
  have hnone : ∀ ds : List Path, (∀ d ∈ ds, ∀ e ∈ endings, there (placeIn d name e) = false) →
      (LinkFlags.candidates ds name).find? there = none := by
    intro ds hds
    refine List.find?_eq_none.mpr fun p hp => ?_
    obtain ⟨d, hd, e, he, rfl⟩ := LinkFlags.mem_candidates.mp hp
    simp [hds d hd e he]
  cases h with
  | missing h => exact (hnone directories h).symm
  | @found before after directory tried untried ending hdirectories hendings hbefore htried
      hthere =>
      have hsplit : LinkFlags.candidates directories name =
          LinkFlags.candidates before name ++
            LinkFlags.candidates (directory :: after) name := by
        rw [hdirectories]
        exact List.flatMap_append
      have htriedNone : (tried.map (placeIn directory name)).find? there = none :=
        List.find?_eq_none.mpr (by simpa using htried)
      rw [hsplit, LinkFlags.candidates_cons, List.find?_append, hnone before hbefore, hendings,
        List.map_append, List.map_cons, List.append_assoc, List.find?_append, htriedNone,
        List.cons_append, List.find?_cons_of_pos hthere]
      rfl

/-- There is one way to search. -/
theorem existsUnique_findsFirst (there : Path → Bool) (directories : List Path) :
    ∃! found : Text → Option Path, ∀ name, FindsFirst there directories name (found name) :=
  ⟨_, findsFirst_find? there directories, fun _ h => funext fun name => (h name).eq_find?⟩

/-! ### Files -/

/-- Named libraries give the files that are found for them, and a warning each where there is
none. -/
theorem named_eq {present : Path → Except FileFault Bool} {there : Path → Bool}
    {directories : List Path} {names : List Text}
    (h : ∀ name ∈ names, ∀ p ∈ LinkFlags.candidates directories name, present p = .ok (there p))
    {found : Text → Option Path} (hfound : ∀ name, FindsFirst there directories name (found name)) :
    named present directories names =
      ⟨(names.filter fun name => (found name).isNone).map missingEntry,
        .ok (names.filterMap found)⟩ := by
  induction names with
  | nil => rfl
  | cons name rest ih =>
      obtain ⟨hname, hrest⟩ := List.forall_mem_cons.mp h
      have hfind : LinkFlags.find? present directories name = .ok (found name) := by
        rw [(hfound name).eq_find?]
        exact LinkFlags.firstPresent_eq hname
      have hlift : Logged.lift ((LinkFlags.find? present directories name).mapError Failure.file) =
          pure (found name) := by
        rw [hfind]
        rfl
      rw [named, hlift, ih hrest]
      cases hcase : found name with
      | some p =>
          rw [List.filter_cons_of_neg (by simp [hcase]), List.filterMap_cons_some hcase]
          exact congrArg (Logged.mk · _) (List.append_nil _)
      | none =>
          rw [List.filter_cons_of_pos (by simp [hcase]), List.filterMap_cons_none hcase]
          rfl

/-- Other items in which the directories may stand elsewhere. -/
structure MovesDirectories (items others : List LinkItem) : Prop where
  directories : others.filter LinkItem.isDirectory = items.filter LinkItem.isDirectory
  rest : (others.filter fun i => !i.isDirectory) = items.filter fun i => !i.isDirectory

namespace MovesDirectories

variable {items others : List LinkItem}

theorem filterMap_directory? (h : MovesDirectories items others) :
    others.filterMap LinkItem.directory? = items.filterMap LinkItem.directory? := by
  have hfilter : ∀ is : List LinkItem,
      (is.filter LinkItem.isDirectory).filterMap LinkItem.directory? =
        is.filterMap LinkItem.directory? := by
    intro is
    rw [List.filterMap_filter]
    exact List.filterMap_congr fun i _ => by cases i <;> rfl
  rw [← hfilter, h.directories, hfilter]

theorem filterMap_of_rest (h : MovesDirectories items others) {f : LinkItem → Option Text}
    (hf : ∀ i : LinkItem, i.isDirectory → f i = none) : others.filterMap f = items.filterMap f := by
  have hfilter : ∀ is : List LinkItem,
      (is.filter fun i => !i.isDirectory).filterMap f = is.filterMap f := by
    intro is
    rw [List.filterMap_filter]
    refine List.filterMap_congr fun i _ => ?_
    cases hi : i.isDirectory with
    | true => exact (hf i hi).symm
    | false => rfl
  rw [← hfilter, h.rest, hfilter]

theorem ofFlags_eq (h : MovesDirectories items others) (base : Path) :
    LinkFlags.ofFlags base (written others) = LinkFlags.ofFlags base (written items) := by
  have hnames : namesOf others = namesOf items :=
    h.filterMap_of_rest fun _ => LinkItem.name?_of_isDirectory
  have hfiles : others.filterMap LinkItem.file? = items.filterMap LinkItem.file? :=
    h.filterMap_of_rest fun _ => LinkItem.file?_of_isDirectory
  rw [LinkFlags.ofFlags_written, LinkFlags.ofFlags_written, directoriesOf, directoriesOf, filesOf,
    filesOf, h.filterMap_directory?, hnames, hfiles]

end MovesDirectories

/-- Where the disk answers for the places of named libraries, flags give the files among them, seen
from the base directory, and behind them the first file of each named library. What is not found
leaves a warning each and nothing else. Moving directories among the other flags changes neither
files nor warnings, whatever the disk says. Apart from a mark alone at their end, which no item is
written with, all flags are like that. -/
theorem filesAmong_written (present : Path → Except FileFault Bool) (there : Path → Bool)
    (base : Path) (items : List LinkItem) :
    (∃! found : Text → Option Path,
      ∀ name, FindsFirst there (directoriesOf base items) name (found name)) ∧
    ((∀ name ∈ namesOf items, ∀ directory ∈ directoriesOf base items, ∀ ending ∈ endings,
        present (placeIn directory name ending) = .ok (there (placeIn directory name ending))) →
      ∀ found : Text → Option Path,
        (∀ name, FindsFirst there (directoriesOf base items) name (found name)) →
          filesAmong present base (written items) =
            ⟨((namesOf items).filter fun name => (found name).isNone).map missingEntry,
              .ok (filesOf base items ++ (namesOf items).filterMap found)⟩) ∧
    (∀ others, MovesDirectories items others →
      filesAmong present base (written others) = filesAmong present base (written items)) ∧
    ∀ flags, ∃ items, flags = written items ∨ flags = written items ++ [directoryMark] := by
  refine ⟨existsUnique_findsFirst there _, fun hthere found hfound => ?_, fun others h => ?_,
    exists_written⟩
  · have hcandidates : ∀ name ∈ namesOf items,
        ∀ p ∈ LinkFlags.candidates (directoriesOf base items) name, present p = .ok (there p) := by
      intro name hname p hp
      obtain ⟨d, hd, e, he, rfl⟩ := LinkFlags.mem_candidates.mp hp
      exact hthere name hname d hd e he
    rw [filesAmong, LinkFlags.ofFlags_written, named_eq hcandidates hfound]
    exact congrArg (Logged.mk · _) (List.append_nil _)
  · rw [filesAmong, filesAmong, h.ofFlags_eq]

/-- A library is in both directories, of which the first one counts, and another is in none. -/
theorem filesAmong_written_shadowed :
    let d : Disk := ⟨["work"],
      [(["work"], .directory), (["work", "out"], .directory),
        (["work", "out", "libfoo.a"], .text []), (["lib"], .directory),
        (["lib", "libfoo.so"], .text []), (["lib", "libbar.dylib"], .text [])]⟩
    let there : Path → Bool := fun p => (d.find? p).isSome
    let base : Path := .ofText "/work"
    let out : LinkItem := .attached "out" (by decide)
    let archive : LinkItem := .file "x/libz.a" (by decide) (by decide) (by decide)
    let option : LinkItem := .other "-Wl,-O1" (by decide) (by decide) (by decide)
    let items : List LinkItem :=
      [.library "foo", out, .library "m", archive, .apart "/lib", option, .library "bar"]
    let others : List LinkItem :=
      [.library "foo", .library "m", archive, option, out, .library "bar", .apart "/lib"]
    (∀ name ∈ namesOf items, ∀ directory ∈ directoriesOf base items, ∀ ending ∈ endings,
      d.has (placeIn directory name ending) = .ok (there (placeIn directory name ending))) ∧
    written items = ["-lfoo", "-Lout", "-lm", "x/libz.a", "-L", "/lib", "-Wl,-O1", "-lbar"] ∧
    files d base (written items) =
      ⟨[missingEntry "m"], .ok [.ofText "/work/x/libz.a", .ofText "/work/out/libfoo.a",
        .ofText "/lib/libbar.dylib"]⟩ ∧
    files d base (written others) = files d base (written items) := by
  intro d there base out archive option items others
  have hthere : ∀ name ∈ namesOf items, ∀ directory ∈ directoriesOf base items,
      ∀ ending ∈ endings,
        d.has (placeIn directory name ending) = .ok (there (placeIn directory name ending)) := by
    decide +kernel
  obtain ⟨⟨found, hfound, -⟩, hfiles, hmoved, -⟩ := filesAmong_written d.has there base items
  refine ⟨hthere, by decide +kernel, (hfiles hthere found hfound).trans ?_,
    hmoved others ⟨rfl, rfl⟩⟩
  have heq : ∀ name, found name =
      (LinkFlags.candidates (directoriesOf base items) name).find? there :=
    fun name => (hfound name).eq_find?
  simp only [heq, Logged.mk.injEq, Except.ok.injEq]
  exact ⟨by decide +kernel, by decide +kernel⟩

end BindingNames.Library
