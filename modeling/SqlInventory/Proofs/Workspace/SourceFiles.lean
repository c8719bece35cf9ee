import SqlInventory.Workspace.Discover
import SqlInventory.Proofs.Text.Constants
import SqlInventory.Proofs.Text.GlobMatching
import SqlInventory.Proofs.Text.Order
import Mathlib.Data.List.Nodup
import Mathlib.Data.List.Infix
import Mathlib.Tactic.Set

/-!
# Which files are found below a directory

Files are found by a walk over the tree. Some directories are not entered, which depends on what
lies further down in them, and patterns leave out files but no directories. Here it is said of one
file alone, by the names on the way to it, whether it is found.

* `WellFormed`: in a directory no name occurs twice, and every name is one that a file can have;
* `mem_filePlaces_iff`: the walk lists the places of files to which only directories lead that are
  entered. The induction is over the tree, and each directory adds one name to every place;
* `nodup_filePlaces`, `relative_inj`: no place is listed twice, and different places have different
  paths, so that sorting by paths leaves nothing open;
* `Path.HasSuffix`: what the suffix of a name is, by the last dot in it (`Path.hasSuffix_iff`);
* `leadsToDirectory_iff`: without links on the way, names lead to a directory if and only if one is
  there.

`sources_below_directory` puts this together.
-/

namespace SqlInventory

/-- **A name that a file can have.** -/
structure IsFileName (name : Text) : Prop where
  nonempty : name ≠ []
  noSlash : '/' ∉ name
  noNul : Char.ofNat 0 ∉ name
  notHere : name ≠ ['.']
  notAbove : name ≠ ['.', '.']

/-- Nothing that starts at the root of all files is the name of a file. -/
theorem IsFileName.not_isAbsolute {name : Text} (h : IsFileName name) :
    Path.isAbsolute name = false := by
  cases name with
  | nil => rfl
  | cons c rest =>
    refine beq_eq_false_iff_ne.mpr fun heq => h.noSlash ?_
    rw [← Option.some.inj heq]
    exact List.mem_cons_self

namespace FileTree

/-- **A tree as a file system has it.** -/
inductive WellFormed : FileTree → Prop where
  /-- A file. -/
  | file (content : Bytes) : WellFormed (.file content)
  /-- A symbolic link. -/
  | link (target : Text) : WellFormed (.link target)
  /-- A directory in which no name occurs twice. -/
  | directory {es : List (Text × FileTree)} (distinct : (es.map Prod.fst).Nodup)
      (names : ∀ e ∈ es, IsFileName e.1) (each : ∀ e ∈ es, WellFormed e.2) :
      WellFormed (.directory es)

/-! ### Places in a tree -/

/-- Where no name occurs twice, looking up a name finds its entry. -/
theorem child?_eq_some_iff {es : List (Text × FileTree)} (distinct : (es.map Prod.fst).Nodup)
    {name : Text} {node : FileTree} :
    (FileTree.directory es).child? name = some node ↔ (name, node) ∈ es := by
  constructor
  · intro h
    obtain ⟨e, hfind, rfl⟩ := Option.map_eq_some_iff.mp h
    have htest := List.find?_some hfind
    obtain rfl : e.1 = name := beq_iff_eq.mp htest
    exact List.mem_of_find?_eq_some hfind
  · intro hmem
    have hsome : (es.find? fun e => e.1 == name).isSome = true :=
      List.find?_isSome.mpr ⟨(name, node), hmem, beq_self_eq_true name⟩
    obtain ⟨e, hfind⟩ := Option.isSome_iff_exists.mp hsome
    have htest := List.find?_some hfind
    have heq : e = (name, node) := List.inj_on_of_nodup_map distinct
      (List.mem_of_find?_eq_some hfind) hmem (beq_iff_eq.mp htest)
    show (es.find? fun e => e.1 == name).map Prod.snd = some node
    rw [hfind, heq]
    rfl

/-- The names on the way to anything in a tree are names of files. -/
theorem WellFormed.isFileName {tree node : FileTree} (h : tree.WellFormed) {place : Place}
    (hplace : tree.at? place = some node) : ∀ name ∈ place, IsFileName name := by
  induction place generalizing tree with
  | nil =>
    intro name hname
    cases hname
  | cons first rest ih =>
    obtain ⟨child, hchild, hrest⟩ := Option.bind_eq_some_iff.mp hplace
    cases h with
    | file content => cases hchild
    | link target => cases hchild
    | directory distinct names each =>
      have hentry := (child?_eq_some_iff distinct).mp hchild
      intro name hname
      rcases List.mem_cons.mp hname with rfl | hname
      · exact names _ hentry
      · exact ih (each _ hentry) hrest name hname

/-! ### The walk -/

variable {enters isFile : Place → Bool}

/-- A file, or a link for which `isFile` holds of the place `here`. -/
def CountsAt (isFile : Place → Bool) (here : Place) : FileTree → Prop
  | .file _ => True
  | .link _ => isFile here = true
  | .directory _ => False

/-- **The walk from `here` comes to `place`**: something that counts as a file is there, and all
directories on the way are entered. -/
def IsReached (enters isFile : Place → Bool) (here : Place) (tree : FileTree) (place : Place) :
    Prop :=
  (∃ node, tree.at? place = some node ∧ CountsAt isFile (here ++ place) node) ∧
    ∀ front, front <+: place → front ≠ place → enters (here ++ front) = true

theorem isReached_nil_iff {here : Place} {tree : FileTree} :
    IsReached enters isFile here tree [] ↔ CountsAt isFile here tree := by
  unfold IsReached
  rw [at?_nil, List.append_nil]
  constructor
  · rintro ⟨⟨node, hnode, hcounts⟩, -⟩
    rwa [Option.some.inj hnode]
  · intro hcounts
    refine ⟨⟨tree, rfl, hcounts⟩, fun front hfront hne => ?_⟩
    exact absurd (List.prefix_nil.mp hfront) hne

/-- One step into a directory: the directory is entered, and the rest is the way from its entry
on. -/
theorem isReached_cons_iff {here : Place} {es : List (Text × FileTree)}
    (distinct : (es.map Prod.fst).Nodup) {name : Text} {rest : Place} :
    IsReached enters isFile here (.directory es) (name :: rest) ↔
      enters here = true ∧ ∃ node, (name, node) ∈ es ∧
        IsReached enters isFile (here ++ [name]) node rest := by
  have hwhole : ∀ front : Place, here ++ name :: front = here ++ [name] ++ front := by
    intro front
    rw [List.append_assoc, List.singleton_append]
  constructor
  · rintro ⟨⟨node, hnode, hcounts⟩, hentered⟩
    obtain ⟨child, hchild, hrest⟩ := Option.bind_eq_some_iff.mp hnode
    have hhere := hentered [] List.nil_prefix (List.cons_ne_nil name rest).symm
    rw [List.append_nil] at hhere
    rw [hwhole] at hcounts
    refine ⟨hhere, child, (child?_eq_some_iff distinct).mp hchild, ⟨node, hrest, hcounts⟩, ?_⟩
    intro front hfront hne
    have hbelow := hentered (name :: front) (List.cons_prefix_cons.mpr ⟨rfl, hfront⟩)
      fun heq => hne (List.cons.inj heq).2
    rwa [hwhole] at hbelow
  · rintro ⟨hhere, child, hentry, ⟨node, hnode, hcounts⟩, hentered⟩
    refine ⟨⟨node, ?_, ?_⟩, ?_⟩
    · exact Option.bind_eq_some_iff.mpr ⟨child, (child?_eq_some_iff distinct).mpr hentry, hnode⟩
    · rwa [hwhole]
    · intro front hfront hne
      rcases List.prefix_cons_iff.mp hfront with rfl | ⟨below, rfl, hbelow⟩
      · rwa [List.append_nil]
      · rw [hwhole]
        exact hentered below hbelow fun heq => hne (congrArg (name :: ·) heq)

theorem filePlacesAmong_eq_flatMap (here : Place) (es : List (Text × FileTree)) :
    filePlacesAmong enters isFile here es =
      es.flatMap fun e => filePlaces enters isFile (here ++ [e.1]) e.2 := by
  induction es with
  | nil => rfl
  | cons e es ih =>
    obtain ⟨name, node⟩ := e
    rw [filePlacesAmong, ih, List.flatMap_cons]

/-- The walk through some entries, if the walk through each of them is known. -/
theorem mem_filePlacesAmong_iff {here p : Place} {es : List (Text × FileTree)}
    (each : ∀ e ∈ es, ∀ here p, p ∈ filePlaces enters isFile here e.2 ↔
      ∃ place, p = here ++ place ∧ IsReached enters isFile here e.2 place) :
    p ∈ filePlacesAmong enters isFile here es ↔
      ∃ name node rest, (name, node) ∈ es ∧ p = here ++ name :: rest ∧
        IsReached enters isFile (here ++ [name]) node rest := by
  rw [filePlacesAmong_eq_flatMap, List.mem_flatMap]
  constructor
  · rintro ⟨⟨name, node⟩, hentry, hp⟩
    obtain ⟨rest, rfl, hreached⟩ := (each _ hentry _ _).mp hp
    exact ⟨name, node, rest, hentry, by simp, hreached⟩
  · rintro ⟨name, node, rest, hentry, rfl, hreached⟩
    refine ⟨(name, node), hentry, (each _ hentry _ _).mpr ⟨rest, by simp, hreached⟩⟩

/-- **Which places the walk lists.** -/
theorem mem_filePlaces_iff {tree : FileTree} (h : tree.WellFormed) (here p : Place) :
    p ∈ filePlaces enters isFile here tree ↔
      ∃ place, p = here ++ place ∧ IsReached enters isFile here tree place := by
  induction h generalizing here p with
  | file content =>
    rw [filePlaces, List.mem_singleton]
    constructor
    · rintro rfl
      exact ⟨[], (List.append_nil p).symm, isReached_nil_iff.mpr trivial⟩
    · rintro ⟨place, rfl, ⟨node, hnode, -⟩, -⟩
      cases place with
      | nil => exact List.append_nil here
      | cons name rest => cases hnode
  | link target =>
    rw [filePlaces]
    constructor
    · intro hp
      split at hp
      · next hfile =>
        rw [List.mem_singleton.mp hp]
        exact ⟨[], (List.append_nil here).symm, isReached_nil_iff.mpr hfile⟩
      · cases hp
    · rintro ⟨place, rfl, hreached⟩
      cases place with
      | nil =>
        have hfile : isFile here = true := isReached_nil_iff.mp hreached
        rw [if_pos hfile, List.append_nil]
        exact List.mem_singleton_self here
      | cons name rest =>
        obtain ⟨⟨node, hnode, -⟩, -⟩ := hreached
        cases hnode
  | directory distinct names each ih =>
    rw [filePlaces]
    constructor
    · intro hp
      split at hp
      · next hhere =>
        obtain ⟨name, node, rest, hentry, rfl, hreached⟩ := (mem_filePlacesAmong_iff ih).mp hp
        exact ⟨name :: rest, rfl, (isReached_cons_iff distinct).mpr ⟨hhere, node, hentry, hreached⟩⟩
      · cases hp
    · rintro ⟨place, rfl, hreached⟩
      cases place with
      | nil => exact absurd (isReached_nil_iff.mp hreached) id
      | cons name rest =>
        obtain ⟨hhere, node, hentry, hbelow⟩ := (isReached_cons_iff distinct).mp hreached
        rw [if_pos hhere]
        exact (mem_filePlacesAmong_iff ih).mpr ⟨name, node, rest, hentry, rfl, hbelow⟩

/-- Entries with different names have no places in common. -/
theorem nodup_filePlacesAmong {here : Place} {es : List (Text × FileTree)}
    (distinct : (es.map Prod.fst).Nodup) (each : ∀ e ∈ es, e.2.WellFormed)
    (ih : ∀ e ∈ es, ∀ here, (filePlaces enters isFile here e.2).Nodup) :
    (filePlacesAmong enters isFile here es).Nodup := by
  rw [filePlacesAmong_eq_flatMap, List.nodup_flatMap]
  refine ⟨fun e he => ih e he _, ?_⟩
  have hnames : es.Pairwise fun e e' => e.1 ≠ e'.1 := List.pairwise_map.mp distinct
  refine hnames.imp_of_mem fun {e e'} he he' hne p hp hp' => hne ?_
  obtain ⟨rest, rfl, -⟩ := (mem_filePlaces_iff (each e he) _ _).mp hp
  obtain ⟨rest', heq, -⟩ := (mem_filePlaces_iff (each e' he') _ _).mp hp'
  rw [List.append_assoc, List.append_assoc] at heq
  exact (List.cons.inj (List.append_cancel_left heq)).1

/-- **No place is listed twice.** -/
theorem nodup_filePlaces {tree : FileTree} (h : tree.WellFormed) (here : Place) :
    (filePlaces enters isFile here tree).Nodup := by
  induction h generalizing here with
  | file content => exact List.nodup_singleton here
  | link target =>
    rw [filePlaces]
    split
    · exact List.nodup_singleton here
    · exact List.nodup_nil
  | directory distinct names each ih =>
    rw [filePlaces]
    split
    · exact nodup_filePlacesAmong distinct each ih
    · exact List.nodup_nil

end FileTree

/-! ### Suffixes -/

namespace Path

/-- **The suffix of a name**: what stands from its last dot on if there is something on either side
of the dot, and nothing otherwise. -/
inductive HasSuffix : Text → Text → Prop where
  /-- The last dot has something on either side. -/
  | dotted {stem tail : Text} (before : stem ≠ []) (behind : tail ≠ []) (last : '.' ∉ tail) :
      HasSuffix (stem ++ '.' :: tail) ('.' :: tail)
  /-- There is no such dot. -/
  | plain {name : Text} (none : ∀ stem tail, stem ≠ [] → tail ≠ [] → '.' ∉ tail →
      name ≠ stem ++ '.' :: tail) : HasSuffix name []

theorem suffix_append_cons {tail : Text} (last : '.' ∉ tail) (stem : Text) :
    suffix (stem ++ '.' :: tail) = if stem ≠ [] ∧ tail ≠ [] then '.' :: tail else [] := by
  have htail : ((stem ++ '.' :: tail).reverse.takeWhile (· != '.')).reverse = tail := by
    rw [List.reverse_append, List.reverse_cons, List.append_assoc, List.singleton_append,
      takeWhile_ne_append_cons (by simpa using last), List.reverse_reverse]
  unfold suffix
  rw [htail]
  refine if_congr ?_ rfl rfl
  simp [and_comm, List.length_pos_iff]

theorem suffix_of_notMem {name : Text} (h : '.' ∉ name) : suffix name = [] := by
  simp [suffix, h]

/-- A name with a dot is divided at the last one. -/
theorem exists_last_dot {name : Text} (h : '.' ∈ name) :
    ∃ stem tail, name = stem ++ '.' :: tail ∧ '.' ∉ tail := by
  obtain ⟨tail, stem, hreverse, hlast⟩ := List.eq_append_cons_of_mem (List.mem_reverse.mpr h)
  refine ⟨stem.reverse, tail.reverse, ?_, by simpa using hlast⟩
  rw [← List.reverse_inj, hreverse]
  simp

/-- A name has one suffix, the one that is computed. -/
theorem hasSuffix_iff {name s : Text} : HasSuffix name s ↔ suffix name = s := by
  constructor
  · intro h
    cases h with
    | dotted before behind last => rw [suffix_append_cons last, if_pos ⟨before, behind⟩]
    | plain none =>
      by_cases hdot : '.' ∈ name
      · obtain ⟨stem, tail, rfl, last⟩ := exists_last_dot hdot
        rw [suffix_append_cons last, if_neg fun hboth => none stem tail hboth.1 hboth.2 last rfl]
      · exact suffix_of_notMem hdot
  · rintro rfl
    by_cases hdot : '.' ∈ name
    · obtain ⟨stem, tail, rfl, last⟩ := exists_last_dot hdot
      rw [suffix_append_cons last]
      split
      · next hboth => exact .dotted hboth.1 hboth.2 last
      · next hnone =>
        refine .plain fun stem' tail' before behind last' heq => hnone ?_
        -- There is only one last dot.
        have hreverse := congrArg List.reverse heq
        simp only [List.reverse_append, List.reverse_cons, List.append_assoc,
          List.singleton_append] at hreverse
        obtain ⟨htail, hstem⟩ := eq_of_append_cons_eq (by simpa using last) (by simpa using last')
          hreverse
        rw [List.reverse_inj] at htail hstem
        exact ⟨hstem ▸ before, htail ▸ behind⟩
    · rw [suffix_of_notMem hdot]
      refine .plain fun stem tail _ _ _ heq => hdot ?_
      rw [heq]
      exact List.mem_append_right stem List.mem_cons_self

end Path

/-! ### Paths -/

/-- Parts without the mark between them can be read off again. -/
theorem Text.splitAtChar_joinWith {sep : Char} {parts : List Text} (hne : parts ≠ [])
    (hparts : ∀ part ∈ parts, sep ∉ part) :
    Text.splitAtChar sep (Text.joinWith [sep] parts) = parts := by
  induction parts with
  | nil => exact absurd rfl hne
  | cons part parts ih =>
    have hpart := hparts part List.mem_cons_self
    cases parts with
    | nil =>
      show Text.splitAtChar sep (List.intercalate [sep] [part]) = [part]
      rw [List.intercalate_singleton, Text.splitAtChar_of_notMem hpart]
    | cons next parts =>
      rw [Text.joinWith_cons_cons, List.append_assoc, List.singleton_append,
        Text.splitAtChar_append_cons hpart,
        ih (List.cons_ne_nil next parts) fun p hp => hparts p (List.mem_cons_of_mem part hp)]

theorem Place.relative_eq_intercalate {place : Place} (hne : place ≠ [])
    (hnames : ∀ name ∈ place, IsFileName name) :
    place.relative = List.intercalate ['/'] place := by
  obtain ⟨first, rest, rfl⟩ := List.exists_cons_of_ne_nil hne
  show Path.ofParts (first :: rest) = _
  rw [Path.ofParts, (hnames first List.mem_cons_self).not_isAbsolute]
  rfl

/-- **Different places have different paths.** -/
theorem Place.relative_inj {p q : Place} (hp : p ≠ []) (hq : q ≠ [])
    (hpnames : ∀ name ∈ p, IsFileName name) (hqnames : ∀ name ∈ q, IsFileName name)
    (h : p.relative = q.relative) : p = q := by
  rw [Place.relative_eq_intercalate hp hpnames, Place.relative_eq_intercalate hq hqnames] at h
  calc
    p = Text.splitAtChar '/' (List.intercalate ['/'] p) :=
      (Text.splitAtChar_joinWith hp fun name hname => (hpnames name hname).noSlash).symm
    _ = Text.splitAtChar '/' (List.intercalate ['/'] q) := by rw [h]
    _ = q := Text.splitAtChar_joinWith hq fun name hname => (hqnames name hname).noSlash

namespace FileTree

variable {root : FileTree}

/-! ### Following names without links -/

theorem jump?_of_isFileName {name : Text} (h : IsFileName name) (here : Place) :
    here.jump? name = none := by
  unfold Place.jump?
  rw [if_neg (by simpa [Path.above] using h.notAbove), h.not_isAbsolute]
  rfl

/-- What is found in a directory is in the tree. -/
theorem at?_of_child? {here : Place} {es : List (Text × FileTree)} {name : Text} {child : FileTree}
    (hnode : root.node? here = some (.directory es))
    (hchild : (FileTree.directory es).child? name = some child) :
    root.at? (here ++ [name]) = some child := by
  unfold node? at hnode
  split at hnode
  · next node hat =>
    obtain rfl := Option.some.inj hnode
    rw [at?_append, hat]
    show (FileTree.child? (.directory es) name).bind (fun below => below.at? []) = some child
    rw [hchild]
    exact at?_nil child
  · -- A directory that is only given has no entries.
    split at hnode
    · cases hnode
      cases hchild
    · cases hnode

theorem node?_of_at? {place : Place} {node : FileTree} (h : root.at? place = some node) :
    root.node? place = some node := by
  unfold node?
  rw [h]

/-- **No link is on the way**, the last name included. -/
def NoLinks (root : FileTree) (names : List Text) : Prop :=
  ∀ front, front <+: names → ∀ target, root.at? front ≠ some (.link target)

/-- Without links, names lead nowhere but to their own place. -/
theorem eq_of_walk_eq_ok {follow : Place → List Text → Except FileError Place} {names : List Text}
    (hnames : ∀ name ∈ names, IsFileName name) {here p : Place}
    (hlinks : root.NoLinks (here ++ names)) (h : walk root follow here names = .ok p) :
    p = here ++ names := by
  induction names generalizing here with
  | nil =>
    rw [walk] at h
    rw [List.append_nil, Except.ok.inj h]
  | cons name rest ih =>
    have hname := hnames name List.mem_cons_self
    have hrest := fun n hn => hnames n (List.mem_cons_of_mem name hn)
    have hwhole : here ++ name :: rest = here ++ [name] ++ rest := by
      rw [List.append_assoc, List.singleton_append]
    rw [walk] at h
    split at h
    · next es hnode =>
      rw [jump?_of_isFileName hname] at h
      dsimp only at h
      split at h
      · -- There is no such name.
        unfold checkName at h
        split at h <;> cases h
      · next target hchild =>
        refine absurd (at?_of_child? hnode hchild) (hlinks _ ?_ target)
        rw [hwhole]
        exact List.prefix_append _ _
      · rw [hwhole] at hlinks ⊢
        exact ih hrest hlinks h
    · cases h
    · cases h

/-- Names lead to what is at their place. -/
theorem walk_of_at? {follow : Place → List Text → Except FileError Place} {names : List Text}
    (hnames : ∀ name ∈ names, IsFileName name) {here : Place} {node : FileTree}
    (hlinks : root.NoLinks (here ++ names)) (hat : root.at? (here ++ names) = some node) :
    walk root follow here names = .ok (here ++ names) := by
  induction names generalizing here with
  | nil => rw [walk, List.append_nil]
  | cons name rest ih =>
    have hname := hnames name List.mem_cons_self
    have hrest := fun n hn => hnames n (List.mem_cons_of_mem name hn)
    have hwhole : here ++ name :: rest = here ++ [name] ++ rest := by
      rw [List.append_assoc, List.singleton_append]
    -- Something with entries is at `here`, so it is a directory.
    have hbelow := hat
    rw [at?_append] at hbelow
    obtain ⟨directory, hdirectory, hpath⟩ := Option.bind_eq_some_iff.mp hbelow
    obtain ⟨child, hchild, -⟩ := Option.bind_eq_some_iff.mp hpath
    cases directory with
    | file content => cases hchild
    | link target => cases hchild
    | directory es =>
      have hnode := node?_of_at? hdirectory
      rw [walk, hnode]
      dsimp only
      rw [jump?_of_isFileName hname]
      dsimp only
      rw [hchild]
      rw [hwhole] at hat hlinks
      have hgoes := ih hrest hlinks hat
      cases child with
      | link target =>
        refine absurd (at?_of_child? hnode hchild) (hlinks _ ?_ target)
        exact List.prefix_append _ _
      | file content => rw [hwhole]; exact hgoes
      | directory es' => rw [hwhole]; exact hgoes

theorem locateFrom_eq_walk (root : FileTree) (links : Nat) :
    ∃ follow, locateFrom root links = walk root follow := by
  cases links with
  | zero => exact ⟨_, rfl⟩
  | succ links => exact ⟨_, rfl⟩

theorem not_isGiven {names : List Text} (hne : names ≠ [])
    (hnames : ∀ name ∈ names, IsFileName name) : Place.isGiven names = false := by
  obtain ⟨name, rest, rfl⟩ := List.exists_cons_of_ne_nil hne
  have hname := hnames name List.mem_cons_self
  have habove : (name == Path.above) = false := beq_eq_false_iff_ne.mpr hname.notAbove
  simp [Place.isGiven, habove, hname.not_isAbsolute]

/-- **Without links on the way, names lead to a directory if and only if one is there**, unless they
are too long for a path. -/
theorem leadsToDirectory_iff {names : List Text} (hne : names ≠ [])
    (hnames : ∀ name ∈ names, IsFileName name)
    (hshort : (Utf8.encode (Path.ofParts names)).length ≤ pathLimit)
    (hlinks : root.NoLinks names) :
    root.leadsToDirectory names = true ↔ ∃ es, root.at? names = some (.directory es) := by
  have hcheck : checkNames names = .ok () := by
    have hnul : ¬(names.any fun name => name.contains (Char.ofNat 0)) = true := by
      rw [List.any_eq_true]
      rintro ⟨name, hname, hcontains⟩
      exact (hnames name hname).noNul (List.contains_iff_mem.mp hcontains)
    unfold checkNames
    rw [if_neg hnul, if_neg (by omega)]
  obtain ⟨follow, hfollow⟩ := locateFrom_eq_walk root linkLimit
  unfold leadsToDirectory follow?
  rw [hcheck, hfollow]
  constructor
  · intro h
    cases hwalk : walk root follow [] names with
    | error e =>
      rw [hwalk] at h
      cases h
    | ok place =>
      obtain rfl : place = names := eq_of_walk_eq_ok hnames hlinks hwalk
      rw [hwalk] at h
      cases hat : root.at? place with
      | none =>
        have hnode : root.node? place = none := by
          unfold node?
          rw [hat, not_isGiven hne hnames]
          rfl
        simp [bind, Except.bind, hnode] at h
      | some node =>
        simp only [bind, Except.bind, node?_of_at? hat] at h
        cases node with
        | file content => cases h
        | link target => cases h
        | directory es => exact ⟨es, rfl⟩
  · rintro ⟨es, hat⟩
    have hwalk : walk root follow [] names = .ok names := walk_of_at? hnames hlinks hat
    simp only [bind, Except.bind, hwalk, node?_of_at? hat]
    rfl

/-! ### Directories that are not entered -/

/-- Modules are installed in the directory: the names `lib` and `perl5` lead from it to a
directory. -/
def HoldsModules (root : FileTree) (directory : Place) : Prop :=
  root.leadsToDirectory (directory ++ ["lib".toList, "perl5".toList]) = true

/-- **The entry `name` of a directory is not entered**: it has one of the names that are passed
over, or it is `local` and modules are installed in it. -/
def IsPruned (root : FileTree) (directory : Place) (name : Text) : Prop :=
  name ∈ skippedDirectories ∨ name = "local".toList ∧ root.HoldsModules (directory ++ [name])

theorem isEntered_iff {name : Text} (h : IsFileName name) (directory : Place) :
    root.isEntered (directory ++ [name]) = true ↔ ¬root.IsPruned directory name := by
  have hinside : Place.isInside [name] = true := by
    have habove : (name == Path.above) = false := beq_eq_false_iff_ne.mpr h.notAbove
    simp [Place.isInside, habove, h.not_isAbsolute]
  have hentered : root.isEntered (directory ++ [name]) =
      !(skippedDirectories.contains name || (name == localDirectory &&
        root.leadsToDirectory (directory ++ [name] ++ installedModules))) := by
    unfold isEntered
    rw [List.getLast?_concat, Bool.not_or]
    dsimp only
    rw [hinside, Bool.true_and]
  rw [hentered, Bool.not_eq_true', ← Bool.not_eq_true, Bool.or_eq_true, Bool.and_eq_true,
    List.contains_iff_mem, beq_iff_eq]
  rfl

/-! ### Sources -/

/-- **A file**: something else than a directory, or a link that does not lead to one. -/
def IsFileAt (root : FileTree) (place : Place) : Prop :=
  (∃ content, root.at? place = some (.file content)) ∨
    (∃ target, root.at? place = some (.link target)) ∧ root.leadsToDirectory place = false

/-- **A source file below the directory at `top`**, by the names on the way to it. -/
structure IsSource (root : FileTree) (top : Place) (extensions exclude : List Text)
    (place : Place) : Prop where
  isFile : root.IsFileAt (top ++ place)
  suffix : ∃ name suffix, place.getLast? = some name ∧ Path.HasSuffix name suffix ∧
    Text.lower suffix ∈ extensions.map Text.lower
  included : ∀ pattern ∈ exclude, ¬Glob.Fits pattern (List.intercalate ['/'] place)
  entered : ∀ above name, above ++ [name] <+: place → above ++ [name] ≠ place →
    ¬root.IsPruned (top ++ above) name

section Below

variable {top : Place} {es : List (Text × FileTree)}

theorem at?_below (hdir : root.at? top = some (.directory es)) (place : Place) :
    root.at? (top ++ place) = (FileTree.directory es).at? place := by
  rw [at?_append, hdir]
  rfl

/-- A file below a directory is not the directory itself, and its names are names of files. -/
theorem IsFileAt.names (hdir : root.at? top = some (.directory es))
    (hwf : (FileTree.directory es).WellFormed) {place : Place}
    (h : root.IsFileAt (top ++ place)) : place ≠ [] ∧ ∀ name ∈ place, IsFileName name := by
  unfold IsFileAt at h
  rw [at?_below hdir] at h
  constructor
  · rintro rfl
    rw [at?_nil] at h
    rcases h with ⟨content, h⟩ | ⟨⟨target, h⟩, -⟩
    · cases h
    · cases h
  · rcases h with ⟨content, h⟩ | ⟨⟨target, h⟩, -⟩
    · exact hwf.isFileName h
    · exact hwf.isFileName h

/-- What counts in the walk is a file. -/
theorem isFileAt_iff (hdir : root.at? top = some (.directory es)) (place : Place) :
    root.IsFileAt (top ++ place) ↔
      ∃ node, (FileTree.directory es).at? place = some node ∧
        CountsAt (fun place => !root.leadsToDirectory (top ++ place)) place node := by
  unfold IsFileAt
  rw [at?_below hdir]
  constructor
  · rintro (⟨content, hat⟩ | ⟨⟨target, hat⟩, hleads⟩)
    · exact ⟨_, hat, trivial⟩
    · refine ⟨_, hat, ?_⟩
      show (!root.leadsToDirectory (top ++ place)) = true
      rw [hleads]
      rfl
  · rintro ⟨node, hat, hcounts⟩
    cases node with
    | file content => exact Or.inl ⟨content, hat⟩
    | link target =>
      have hleads : (!root.leadsToDirectory (top ++ place)) = true := hcounts
      rw [Bool.not_eq_true'] at hleads
      exact Or.inr ⟨⟨target, hat⟩, hleads⟩
    | directory inner => exact absurd hcounts id

/-- **The walk below a directory lists the files to which no pruned directory leads.** -/
theorem mem_filePlacesAmong_below_iff (hdir : root.at? top = some (.directory es))
    (hwf : (FileTree.directory es).WellFormed) (place : Place) :
    place ∈ filePlacesAmong (fun place => root.isEntered (top ++ place))
        (fun place => !root.leadsToDirectory (top ++ place)) [] es ↔
      root.IsFileAt (top ++ place) ∧ ∀ above name, above ++ [name] <+: place →
        above ++ [name] ≠ place → ¬root.IsPruned (top ++ above) name := by
  have hsplit := hwf
  cases hsplit with
  | directory distinct names each =>
    rw [mem_filePlacesAmong_iff fun e he => mem_filePlaces_iff (each e he)]
    constructor
    · rintro ⟨first, node, rest, hentry, rfl, ⟨found, hfound, hcounts⟩, hentered⟩
      have hfile : root.IsFileAt (top ++ first :: rest) := by
        refine (isFileAt_iff hdir _).mpr ⟨found, ?_, hcounts⟩
        exact Option.bind_eq_some_iff.mpr ⟨node, (child?_eq_some_iff distinct).mpr hentry, hfound⟩
      refine ⟨hfile, fun above name hfront hne => ?_⟩
      have hname := (hfile.names hdir hwf).2 name (hfront.subset (by simp))
      -- A directory on the way is reached through the first name.
      rcases List.prefix_cons_iff.mp hfront with hempty | ⟨front, hcons, hbelow⟩
      · exact absurd hempty (by simp)
      · rw [← isEntered_iff hname, List.append_assoc, hcons]
        exact hentered front hbelow fun heq => hne (hcons.trans (congrArg (first :: ·) heq))
    · rintro ⟨hfile, hpruned⟩
      obtain ⟨hne, hnames⟩ := hfile.names hdir hwf
      obtain ⟨first, rest, rfl⟩ := List.exists_cons_of_ne_nil hne
      obtain ⟨found, hfound, hcounts⟩ := (isFileAt_iff hdir _).mp hfile
      obtain ⟨node, hchild, hrest⟩ := Option.bind_eq_some_iff.mp hfound
      refine ⟨first, node, rest, (child?_eq_some_iff distinct).mp hchild, rfl,
        ⟨found, hrest, hcounts⟩, fun front hfront hstrict => ?_⟩
      -- Every directory on the way has a last name.
      obtain ⟨above, name, hlast⟩ : ∃ above name, first :: front = above ++ [name] :=
        ⟨_, _, (List.dropLast_append_getLast (List.cons_ne_nil first front)).symm⟩
      have honway : above ++ [name] <+: first :: rest := by
        rw [← hlast]
        exact List.cons_prefix_cons.mpr ⟨rfl, hfront⟩
      have hname := hnames name (honway.subset (by simp))
      have hopen := hpruned above name honway fun heq =>
        hstrict (List.cons.inj (hlast.trans heq)).2
      rw [← isEntered_iff hname, List.append_assoc, ← hlast] at hopen
      exact hopen

end Below

theorem isExcluded_eq_false_iff {patterns : List Text} {path : Text} :
    isExcluded patterns path = false ↔
      ∀ pattern ∈ patterns, ¬Glob.Fits pattern path := by
  unfold isExcluded
  rw [List.any_eq_false]
  refine forall₂_congr fun pattern _ => ?_
  rw [Glob.accepts_ofText_iff]

theorem hasSuffix_iff {extensions : List Text} {place : Place} (hne : place ≠ []) :
    hasSuffix (extensions.map Text.lower) place = true ↔
      ∃ name suffix, place.getLast? = some name ∧ Path.HasSuffix name suffix ∧
        Text.lower suffix ∈ extensions.map Text.lower := by
  unfold hasSuffix
  rw [List.getLast?_eq_some_getLast hne, List.contains_iff_mem]
  simp [Path.hasSuffix_iff]

/-- What leads from a directory to its modules: names of files, no links, and not too many bytes. -/
structure PlainWay (root : FileTree) (names : List Text) : Prop where
  each : ∀ name ∈ names, IsFileName name
  short : (Utf8.encode (Path.ofParts names)).length ≤ pathLimit
  noLinks : root.NoLinks names

/-- **Which files are found below a directory**, and in which order: the source files, each once, in
increasing order of their paths relative to the directory. Modules count as installed in a
directory, if no link is on the way to them, exactly if the tree has a directory for them. -/
theorem sources_below_directory (root : FileTree) (top : Place) (es : List (Text × FileTree))
    (hdir : root.at? top = some (.directory es)) (hwf : (FileTree.directory es).WellFormed)
    (extensions exclude : List Text) :
    (∃ found : List Place, root.sourcesAt top extensions exclude = found.map (top ++ ·) ∧
      found.Pairwise (fun p q => List.intercalate ['/'] p < List.intercalate ['/'] q) ∧
      ∀ place, place ∈ found ↔ root.IsSource top extensions exclude place) ∧
    ∀ directory, root.PlainWay (directory ++ ["lib".toList, "perl5".toList]) →
      (root.HoldsModules directory ↔
        ∃ inner, root.at? (directory ++ ["lib".toList, "perl5".toList]) =
          some (.directory inner)) := by
  constructor
  · set listed := filePlacesAmong (fun place => root.isEntered (top ++ place))
      (fun place => !root.leadsToDirectory (top ++ place)) [] es with hlisted
    set wanted : Place → Bool := fun place =>
      hasSuffix (extensions.map Text.lower) place && !isExcluded exclude place.relative with hwanted
    have hmem := mem_filePlacesAmong_below_iff hdir hwf
    have hnames : ∀ place ∈ listed.filter wanted,
        place ≠ [] ∧ ∀ name ∈ place, IsFileName name := by
      intro place hplace
      exact ((hmem place).mp (List.mem_filter.mp hplace).1).1.names hdir hwf
    refine ⟨(listed.filter wanted).mergeSort fun a b => Text.atMost a.relative b.relative,
      ?_, ?_, ?_⟩
    · unfold sourcesAt sourcesBelow
      rw [hdir]
    · -- No place is listed twice, and different places have different paths.
      have hnodup : listed.Nodup := by
        have hsplit := hwf
        cases hsplit with
        | directory distinct names each =>
          exact nodup_filePlacesAmong distinct each fun e he => nodup_filePlaces (each e he)
      have hdistinct : ((listed.filter wanted).map Place.relative).Nodup := by
        refine List.Nodup.map_on ?_ (hnodup.filter wanted)
        intro p hp q hq heq
        exact Place.relative_inj (hnames p hp).1 (hnames q hq).1 (hnames p hp).2 (hnames q hq).2 heq
      refine (pairwise_lt_mergeSort hdistinct).imp_of_mem fun {p q} hp hq hlt => ?_
      obtain ⟨hpne, hpnames⟩ := hnames p (List.mem_mergeSort.mp hp)
      obtain ⟨hqne, hqnames⟩ := hnames q (List.mem_mergeSort.mp hq)
      rwa [Place.relative_eq_intercalate hpne hpnames,
        Place.relative_eq_intercalate hqne hqnames] at hlt
    · intro place
      rw [List.mem_mergeSort, List.mem_filter, hmem, hwanted, Bool.and_eq_true, Bool.not_eq_true',
        isExcluded_eq_false_iff]
      constructor
      · rintro ⟨⟨hat, hentered⟩, hsuffix, hincluded⟩
        obtain ⟨hne, hnames⟩ := hat.names hdir hwf
        rw [Place.relative_eq_intercalate hne hnames] at hincluded
        exact ⟨hat, (hasSuffix_iff hne).mp hsuffix, hincluded, hentered⟩
      · rintro ⟨hat, hsuffix, hincluded, hentered⟩
        obtain ⟨hne, hnames⟩ := hat.names hdir hwf
        rw [← Place.relative_eq_intercalate hne hnames] at hincluded
        exact ⟨⟨hat, hentered⟩, (hasSuffix_iff hne).mpr hsuffix, hincluded⟩
  · intro directory hway
    exact leadsToDirectory_iff (by simp) hway.each hway.short hway.noLinks

instance (name : Text) : Decidable (IsFileName name) :=
  decidable_of_iff (name ≠ [] ∧ '/' ∉ name ∧ Char.ofNat 0 ∉ name ∧ name ≠ ['.'] ∧
      name ≠ ['.', '.'])
    ⟨fun ⟨h₁, h₂, h₃, h₄, h₅⟩ => ⟨h₁, h₂, h₃, h₄, h₅⟩,
      fun ⟨h₁, h₂, h₃, h₄, h₅⟩ => ⟨h₁, h₂, h₃, h₄, h₅⟩⟩

/-- The entries of a workspace with installed modules and built files beside files of its own. -/
def cartonEntries : List (Text × FileTree) :=
  [("b.pl", .file []), ("local", .directory [("e.pl", .file []), ("lib", .directory
    [("perl5", .directory [])])]), ("blib", .directory [("f.pl", .file [])]),
    ("a", .directory [("c.PL", .file []), ("d.pl", .link "../b.pl"), ("g.txt", .file [])])]

/-- A directory with one more entry. -/
theorem WellFormed.cons {name : Text} {node : FileTree} {es : List (Text × FileTree)}
    (hname : IsFileName name) (hnew : name ∉ es.map Prod.fst) (hnode : node.WellFormed)
    (h : (FileTree.directory es).WellFormed) :
    (FileTree.directory ((name, node) :: es)).WellFormed := by
  cases h with
  | directory distinct names each =>
    exact .directory (List.nodup_cons.mpr ⟨hnew, distinct⟩)
      (List.forall_mem_cons.mpr ⟨hname, names⟩) (List.forall_mem_cons.mpr ⟨hnode, each⟩)

theorem wellFormed_cartonEntries : (FileTree.directory cartonEntries).WellFormed := by
  have hnone : (FileTree.directory []).WellFormed :=
    .directory List.nodup_nil (List.forall_mem_nil _) (List.forall_mem_nil _)
  have hmodules : (FileTree.directory [("perl5", .directory [])]).WellFormed :=
    .cons (by decide) (by decide) hnone hnone
  have hlocal : (FileTree.directory [("e.pl", .file []), ("lib", .directory
      [("perl5", .directory [])])]).WellFormed :=
    .cons (by decide) (by decide) (.file []) (.cons (by decide) (by decide) hmodules hnone)
  have hbuilt : (FileTree.directory [("f.pl", .file [])]).WellFormed :=
    .cons (by decide) (by decide) (.file []) hnone
  have hown : (FileTree.directory [("c.PL", .file []), ("d.pl", .link "../b.pl"),
      ("g.txt", .file [])]).WellFormed :=
    .cons (by decide) (by decide) (.file []) (.cons (by decide) (by decide) (.link _)
      (.cons (by decide) (by decide) (.file []) hnone))
  exact .cons (by decide) (by decide) (.file []) (.cons (by decide) (by decide) hlocal
    (.cons (by decide) (by decide) hbuilt (.cons (by decide) (by decide) hown hnone)))

theorem sourcesAt_cartonEntries :
    (FileTree.directory cartonEntries).sourcesAt [] [".pl"] ["[!a]*.p?"] =
      ([["a", "c.PL"], ["a", "d.pl"]] : List Place) := by
  -- The walk comes to these two in order, so there is nothing to sort.
  have hsorted : ([["a", "c.PL"], ["a", "d.pl"]] : List Place).mergeSort
      (fun a b => Text.atMost a.relative b.relative) =
        ([["a", "c.PL"], ["a", "d.pl"]] : List Place) :=
    List.mergeSort_of_pairwise (by decide)
  exact congrArg (List.map ([] ++ ·)) hsorted

/-- Found are a file and a link to one, whether the suffix has capitals or not. Not found are a file
that a pattern excludes, one with another suffix, and those in directories that are passed over. -/
theorem cartonEntries_sources :
    (FileTree.directory cartonEntries).at? [] = some (.directory cartonEntries) ∧
    (FileTree.directory cartonEntries).WellFormed ∧
    (FileTree.directory cartonEntries).sourcesAt [] [".pl"] ["[!a]*.p?"] =
      ([["a", "c.PL"], ["a", "d.pl"]] : List Place) ∧
    (∀ place : Place, (FileTree.directory cartonEntries).IsSource [] [".pl"] ["[!a]*.p?"] place ↔
      place ∈ ([["a", "c.PL"], ["a", "d.pl"]] : List Place)) ∧
    ∀ place ∈ ([["b.pl"], ["a", "g.txt"], ["local", "e.pl"], ["blib", "f.pl"]] : List Place),
      (FileTree.directory cartonEntries).IsFileAt place ∧
        ¬(FileTree.directory cartonEntries).IsSource [] [".pl"] ["[!a]*.p?"] place := by
  obtain ⟨⟨found, hfound, -, hmem⟩, -⟩ :=
    sources_below_directory _ [] cartonEntries rfl wellFormed_cartonEntries [".pl"] ["[!a]*.p?"]
  obtain rfl : found = ([["a", "c.PL"], ["a", "d.pl"]] : List Place) := by
    simpa using hfound.symm.trans sourcesAt_cartonEntries
  refine ⟨rfl, wellFormed_cartonEntries, sourcesAt_cartonEntries,
    fun place => (hmem place).symm, ?_⟩
  simp only [List.forall_mem_cons, ← hmem]
  exact ⟨⟨Or.inl ⟨[], rfl⟩, by decide⟩, ⟨Or.inl ⟨[], rfl⟩, by decide⟩,
    ⟨Or.inl ⟨[], rfl⟩, by decide⟩, ⟨Or.inl ⟨[], rfl⟩, by decide⟩, List.forall_mem_nil _⟩

end FileTree

end SqlInventory
