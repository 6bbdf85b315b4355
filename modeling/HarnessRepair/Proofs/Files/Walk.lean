import HarnessRepair.Files.FileSystem

/-!
# Where paths lead

What a walk along components comes to depends on the directories that it goes through and on
the links that it meets, and on nothing else: not on what files hold, and not on what there is
elsewhere.  A walk that fits a file system fits every other with the same links in which its
directories are still there.

Where a path leads, if it leads anywhere, is told by the links alone: `leadsTo?` walks as if
every place without a link were a directory.

## Main definitions

* `FileSystem.Opens` — all directories of the one are directories of the other, and the links
  are the same.
* `FileSystem.SameLinks` — the links are the same, and so is the working directory.
* `FileSystem.leadsTo?` — the place that a path leads to wherever it leads anywhere.

## Main results

* `walk_transfer` — a walk is the same where its steps are.
* `walk_of_opens`, `walk_congr` — **what a walk comes to elsewhere.**
* `leadsTo?_of_resolve` — a path leads to its place.
* `SameLinks.leadsTo?_eq` — and to the same with the same links.
-/

namespace HarnessRepair

namespace FileSystem

variable {node node' : Place → Option Node} {here p : Place} {comps : List Path.Component}

/-! ### Walks -/

theorem walkWith_nil {follow : Place → List Path.Component → Except IoError Place} :
    walkWith node follow here [] = .ok here := by rw [walkWith]

/-- Steps that come to the same elsewhere, unless they fail in a way that does not matter, make
walks that do so. -/
theorem walkWith_transfer {G : IoError → Prop}
    {follow follow' : Place → List Path.Component → Except IoError Place}
    (hstep : ∀ here c, (∀ e, step node here c = .error e → G e) →
      step node' here c = step node here c)
    (hfollow : ∀ here comps, (∀ e, follow here comps = .error e → G e) →
      follow' here comps = follow here comps)
    (h : ∀ e, walkWith node follow here comps = .error e → G e) :
    walkWith node' follow' here comps = walkWith node follow here comps := by
  -- what lies behind the first link is left to `follow`
  induction comps generalizing here with
  | nil => rw [walkWith_nil, walkWith_nil]
  | cons c rest ih =>
    rw [walkWith] at h ⊢
    have hsame : step node' here c = step node here c :=
      hstep here c fun e he => h e (by rw [he])
    rw [walkWith, hsame]
    cases hc : step node here c with
    | error e => rfl
    | ok r =>
      obtain ⟨q, target⟩ := r
      rw [hc] at h
      cases target with
      | none => exact ih h
      | some target => exact hfollow q (target ++ rest) h

/-- So do walks that follow links. -/
theorem walk_transfer {G : IoError → Prop}
    (hstep : ∀ here c, (∀ e, step node here c = .error e → G e) →
      step node' here c = step node here c)
    {links : Nat} (h : ∀ e, walk node links here comps = .error e → G e) :
    walk node' links here comps = walk node links here comps := by
  induction links generalizing here comps with
  | zero => exact walkWith_transfer hstep (fun _ _ _ => rfl) h
  | succ links ih => exact walkWith_transfer hstep (fun _ _ => ih) h

/-- A walk that has failed does not go on. -/
theorem walk_append_of_error {links : Nat} {e : IoError} (h : walk node links here comps = .error e)
    (more : List Path.Component) : walk node links here (comps ++ more) = .error e := by
  -- one stretch without a link; the links that are left are counted down behind it
  have hwith : ∀ {follow : Place → List Path.Component → Except IoError Place},
      (∀ here comps, follow here comps = .error e → follow here (comps ++ more) = .error e) →
      ∀ {here comps}, walkWith node follow here comps = .error e →
        walkWith node follow here (comps ++ more) = .error e := by
    intro follow hfollow here comps h
    induction comps generalizing here with
    | nil =>
      rw [walkWith_nil] at h
      cases h
    | cons c rest ih =>
      rw [walkWith] at h
      rw [List.cons_append, walkWith]
      cases hc : step node here c with
      | error e' =>
        rw [hc] at h
        exact h
      | ok r =>
        obtain ⟨q, target⟩ := r
        rw [hc] at h
        cases target with
        | none => exact ih h
        | some target =>
          dsimp only at h ⊢
          rw [← List.append_assoc]
          exact hfollow q _ h
  induction links generalizing here comps with
  | zero => exact @hwith (fun _ _ => .error .tooManyLinks) (fun _ _ h => h) _ _ h
  | succ links ih => exact hwith (fun _ _ h => ih h) h

/-- A walk goes on from the place that it has come to, past as many links as are left. -/
theorem walk_append {links : Nat} {d : Place} (h : walk node links here comps = .ok d) :
    ∃ left, ∀ more, walk node links here (comps ++ more) = walk node left d more := by
  have hwith : ∀ {links : Nat} {follow : Place → List Path.Component → Except IoError Place},
      (∀ here comps, walk node links here comps = walkWith node follow here comps) →
      (∀ here comps, follow here comps = .ok d →
        ∃ left, ∀ more, follow here (comps ++ more) = walk node left d more) →
      ∀ {here comps}, walkWith node follow here comps = .ok d →
        ∃ left, ∀ more, walkWith node follow here (comps ++ more) = walk node left d more := by
    intro links follow hwalk hfollow here comps h
    induction comps generalizing here with
    | nil =>
      rw [walkWith_nil] at h
      obtain rfl := Except.ok.inj h
      exact ⟨links, fun more => (hwalk here more).symm⟩
    | cons c rest ih =>
      rw [walkWith] at h
      simp only [List.cons_append, walkWith]
      cases hc : step node here c with
      | error e =>
        rw [hc] at h
        cases h
      | ok r =>
        obtain ⟨q, target⟩ := r
        rw [hc] at h
        cases target with
        | none => exact ih h
        | some target =>
          dsimp only at h ⊢
          simp only [← List.append_assoc]
          exact hfollow q _ h
  induction links generalizing here comps with
  | zero =>
    exact @hwith 0 (fun _ _ => .error .tooManyLinks) (fun _ _ => rfl) (fun _ _ h => by cases h)
      _ _ h
  | succ links ih => exact @hwith (links + 1) _ (fun _ _ => rfl) (fun _ _ h => ih h) _ _ h

theorem walk_nil {links : Nat} : walk node links here [] = .ok here := by
  cases links <;> exact walkWith_nil

/-- A walk that takes a step to a place. -/
theorem walk_cons {links : Nat} {c : Path.Component} (h : step node here c = .ok (p, none))
    (rest : List Path.Component) :
    walk node links here (c :: rest) = walk node links p rest := by
  cases links <;> rw [walk, walkWith, h]

/-- A step that cannot be taken. -/
theorem walk_cons_of_error {links : Nat} {c : Path.Component} {e : IoError}
    (h : step node here c = .error e) (rest : List Path.Component) :
    walk node links here (c :: rest) = .error e := by
  cases links <;> rw [walk, walkWith, h]

/-! ### Steps elsewhere -/

/-- A step to another place than the root needs a directory to start from. -/
theorem step_eq {c : Path.Component} (hc : c ≠ .root) :
    step node here c =
      match node here with
      | some .dir => onward node here c
      | some _ => .error .notDirectory
      | none => .error .notFound := if_neg hc

theorem step_root : step node here .root = .ok ([], none) := if_pos rfl

/-- A step along a name ends at the name, unless there is a link. -/
theorem step_name_cases {s : String} {r : Place × Option (List Path.Component)}
    (h : step node here (.name s) = .ok r) :
    r = (here ++ [s], none) ∧ (∀ t, node (here ++ [s]) ≠ some (.link t)) ∨
      ∃ t, r = (here, some t) ∧ node (here ++ [s]) = some (.link t) := by
  rw [step_eq (by simp)] at h
  split at h
  · rw [onward] at h
    split at h
    · cases h
    · split at h
      · next t ht => exact Or.inr ⟨t, (Except.ok.inj h).symm, ht⟩
      · next hno => exact Or.inl ⟨(Except.ok.inj h).symm, hno⟩
  · cases h
  · cases h

/-- All directories of the one are directories of the other, and the links are the same. -/
structure Opens (node node' : Place → Option Node) : Prop where
  dirs : ∀ q, node q = some .dir → node' q = some .dir
  links : ∀ q t, node' q = some (.link t) ↔ node q = some (.link t)

/-- Behind a directory a step comes to the same if the links are the same. -/
theorem step_of_dir {c : Path.Component} (hdir : node here = some .dir)
    (hdir' : node' here = some .dir)
    (hlinks : ∀ q t, node' q = some (.link t) ↔ node q = some (.link t)) :
    step node' here c = step node here c := by
  by_cases hc : c = .root
  · rw [hc, step_root, step_root]
  rw [step_eq hc, step_eq hc, hdir, hdir']
  dsimp only
  cases c with
  | root | here | up => rfl
  | name s =>
    rw [onward, onward]
    by_cases hlong : nameLimit < s.utf8ByteSize
    · rw [if_pos hlong, if_pos hlong]
    · rw [if_neg hlong, if_neg hlong]
      cases hn : node (here ++ [s]) with
      | none =>
        have hno : ∀ t, node' (here ++ [s]) ≠ some (.link t) := fun t ht => by
          rw [hlinks, hn] at ht
          cases ht
        split
        · next t ht => exact absurd ht (hno t)
        · rfl
      | some n =>
        cases n with
        | link t => rw [(hlinks _ t).2 hn]
        | _ =>
          have hno : ∀ t, node' (here ++ [s]) ≠ some (.link t) := fun t ht => by
            rw [hlinks, hn] at ht
            cases ht
          split
          · next t ht => exact absurd ht (hno t)
          · rfl

/-- A step that is taken goes the same way where more is open. -/
theorem Opens.step_eq (h : Opens node node') {c : Path.Component}
    {r : Place × Option (List Path.Component)} (hr : step node here c = .ok r) :
    step node' here c = .ok r := by
  by_cases hc : c = .root
  · rw [hc, step_root] at hr ⊢
    exact hr
  · rw [← hr]
    rw [FileSystem.step_eq hc] at hr
    cases hn : node here with
    | none =>
      rw [hn] at hr
      cases hr
    | some n =>
      cases n with
      | dir => exact step_of_dir hn (h.dirs here hn) h.links
      | file _ | link _ =>
        rw [hn] at hr
        cases hr

/-- **A walk that comes to a place comes there where more is open.** -/
theorem walk_of_opens (h : Opens node node') {links : Nat}
    (hwalk : walk node links here comps = .ok p) : walk node' links here comps = .ok p := by
  rw [← hwalk]
  refine walk_transfer (G := fun _ => False) (fun here c hgood => ?_) fun e he => ?_
  · cases hr : step node here c with
    | error e => exact (hgood e hr).elim
    | ok r => exact h.step_eq hr
  · rw [hwalk] at he
    cases he

/-- What a node is to a walk: what a file holds does not matter. -/
def Node.shape : Node → Node
  | .file _ => .file (.text "")
  | .dir => .dir
  | .link target => .link target

/-- **A walk is the same where the same kinds of things stand.** -/
theorem walk_congr (h : ∀ q, (node' q).map Node.shape = (node q).map Node.shape) (links : Nat)
    (here : Place) (comps : List Path.Component) :
    walk node' links here comps = walk node links here comps := by
  have hlinks : ∀ q t, node' q = some (.link t) ↔ node q = some (.link t) := by
    intro q t
    have hq := h q
    cases hn : node q with
    | none =>
      rw [hn] at hq
      rw [Option.map_eq_none_iff.1 hq]
    | some n =>
      rw [hn] at hq
      obtain ⟨m, hm, hshape⟩ := Option.map_eq_some_iff.1 hq
      rw [hm]
      cases m <;> cases n <;> simp_all [Node.shape]
  refine walk_transfer (G := fun _ => True) (fun here c _ => ?_) fun _ _ => trivial
  by_cases hc : c = .root
  · rw [hc, step_root, step_root]
  have hhere := h here
  cases hn : node here with
  | none =>
    rw [hn] at hhere
    rw [FileSystem.step_eq hc, FileSystem.step_eq hc, hn, Option.map_eq_none_iff.1 hhere]
  | some n =>
    rw [hn] at hhere
    obtain ⟨m, hm, hshape⟩ := Option.map_eq_some_iff.1 hhere
    cases n with
    | dir =>
      refine step_of_dir hn ?_ hlinks
      cases m <;> simp_all [Node.shape]
    | file _ | link _ =>
      rw [FileSystem.step_eq hc, FileSystem.step_eq hc, hn, hm]
      cases m <;> simp_all [Node.shape]

/-! ### Links -/

variable {fs fs' fs'' : FileSystem} {path : String}

/-- What stands at a place as far as links tell: where there is none, a directory may be. -/
def way (fs : FileSystem) (q : Place) : Option Node :=
  match fs.node? q with
  | some (.link target) => some (.link target)
  | _ => some .dir

theorem way_eq_link_iff {q : Place} {t : List Path.Component} :
    fs.way q = some (.link t) ↔ fs.node? q = some (.link t) := by
  rw [way]
  split
  · next t' ht' => rw [ht']
  · next hno =>
    refine iff_of_false (fun h => by cases h) fun h => hno t h

/-- All that is there is on the way. -/
theorem opens_way (fs : FileSystem) : Opens fs.node? fs.way where
  dirs q hq := by rw [way, hq]
  links _ _ := way_eq_link_iff

/-- The place that a path leads to wherever it leads anywhere. -/
def leadsTo? (fs : FileSystem) (path : String) : Option Place :=
  (walk fs.way linkLimit fs.workingDir (Path.components path)).toOption

/-- **A path that leads somewhere leads to its place.** -/
theorem leadsTo?_of_resolve (h : fs.resolve path = .ok p) : fs.leadsTo? path = some p := by
  rw [resolve] at h
  split at h
  · cases h
  · rw [leadsTo?, walk_of_opens (opens_way fs) h]
    rfl

/-- The links are the same, and so is the working directory. -/
structure SameLinks (fs fs' : FileSystem) : Prop where
  workingDir : fs'.workingDir = fs.workingDir
  links : ∀ q t, fs'.node? q = some (.link t) ↔ fs.node? q = some (.link t)

namespace SameLinks

theorem refl (fs : FileSystem) : SameLinks fs fs := ⟨rfl, fun _ _ => Iff.rfl⟩

theorem trans (h : SameLinks fs fs') (h' : SameLinks fs' fs'') : SameLinks fs fs'' :=
  ⟨h'.workingDir.trans h.workingDir, fun q t => (h'.links q t).trans (h.links q t)⟩

/-- **With the same links a path leads to the same place.** -/
theorem leadsTo?_eq (h : SameLinks fs fs') (path : String) :
    fs'.leadsTo? path = fs.leadsTo? path := by
  have hway : fs'.way = fs.way := by
    funext q
    have hboth : ∀ t, fs'.way q = some (.link t) ↔ fs.way q = some (.link t) := fun t => by
      rw [way_eq_link_iff, way_eq_link_iff, h.links]
    rw [way, way]
    split
    · next t ht => rw [(h.links q t).1 ht]
    · next hno =>
      split
      · next t ht => exact absurd ((h.links q t).2 ht) (hno t)
      · rfl
  rw [leadsTo?, leadsTo?, hway, h.workingDir]

end SameLinks

/-- A path leads to a directory. -/
theorem isDir_iff :
    fs.isDir path = true ↔ ∃ p, fs.resolve path = .ok p ∧ fs.node? p = some .dir := by
  rw [isDir, find?, place?]
  cases fs.resolve path with
  | error e => simp
  | ok p =>
    cases hn : fs.node? p with
    | none => simp [hn]
    | some n => cases n <;> cases wantsDirectory path <;> simp [hn]

/-- The links are the same, and the directories are still there. -/
structure Builds (fs fs' : FileSystem) : Prop extends SameLinks fs fs' where
  dirs : ∀ q, fs.node? q = some .dir → fs'.node? q = some .dir

namespace Builds

theorem refl (fs : FileSystem) : Builds fs fs := ⟨.refl fs, fun _ => id⟩

theorem trans (h : Builds fs fs') (h' : Builds fs' fs'') : Builds fs fs'' :=
  ⟨h.toSameLinks.trans h'.toSameLinks, fun q hq => h'.dirs q (h.dirs q hq)⟩

/-- **A path keeps its place.** -/
theorem resolve (h : Builds fs fs') (hp : fs.resolve path = .ok p) : fs'.resolve path = .ok p := by
  rw [FileSystem.resolve] at hp ⊢
  split at hp
  · cases hp
  · rw [follow] at hp ⊢
    rw [h.workingDir]
    exact walk_of_opens ⟨h.dirs, h.links⟩ hp

/-- What is a directory stays one. -/
theorem isDir (h : Builds fs fs') (hdir : fs.isDir path = true) : fs'.isDir path = true := by
  rw [isDir_iff] at hdir ⊢
  obtain ⟨p, hp, hnode⟩ := hdir
  exact ⟨p, h.resolve hp, h.dirs p hnode⟩

end Builds

/-- Where the same kinds of things stand, paths are the same. -/
theorem resolve_congr (hdir : fs'.workingDir = fs.workingDir)
    (hshape : ∀ q, (fs'.node? q).map Node.shape = (fs.node? q).map Node.shape) (path : String) :
    fs'.resolve path = fs.resolve path := by
  rw [resolve, resolve, follow, follow, hdir]
  split
  · rfl
  · exact walk_congr hshape _ _ _

/-! ### What a path names -/

/-- A path that leads somewhere names that place, or a link on the way. -/
theorem locate_of_resolve (h : fs.resolve path = .ok p) :
    ∃ q, fs.locate path = .ok q ∧ (q = p ∨ ∃ t, fs.node? q = some (.link t)) := by
  rw [resolve] at h
  rw [locate]
  split at h
  · cases h
  · dsimp only
    split
    · next s hlast =>
      -- both go through the same directory, and part at the last name only
      obtain ⟨front, hfront⟩ := List.getLast?_eq_some_iff.1 hlast
      rw [hfront] at h ⊢
      rw [List.dropLast_concat]
      cases hdir : fs.follow front with
      | error e =>
        rw [follow, walk_append_of_error hdir] at h
        cases h
      | ok d =>
        obtain ⟨left, hleft⟩ := walk_append hdir
        rw [follow, hleft] at h
        cases hstep : step fs.node? d (.name s) with
        | error e =>
          rw [walk_cons_of_error hstep] at h
          cases h
        | ok r =>
          refine ⟨d ++ [s], ?_, ?_⟩
          · change (step fs.node? d (.name s) >>= fun _ => pure (d ++ [s])) = _
            rw [hstep]
            rfl
          · rcases step_name_cases hstep with ⟨rfl, -⟩ | ⟨t, -, ht⟩
            · rw [walk_cons hstep, walk_nil] at h
              exact Or.inl (Except.ok.inj h)
            · exact Or.inr ⟨t, ht⟩
    · exact ⟨p, h, Or.inl rfl⟩

/-- A path that names a place without a link leads there. -/
theorem resolve_of_locate (hlink : ∀ t, fs.node? p ≠ some (.link t))
    (h : fs.locate path = .ok p) : fs.resolve path = .ok p := by
  rw [locate] at h
  rw [resolve]
  split at h
  · cases h
  · dsimp only at h
    split at h
    · next s hlast =>
      obtain ⟨front, hfront⟩ := List.getLast?_eq_some_iff.1 hlast
      rw [hfront, List.dropLast_concat] at h
      rw [hfront]
      cases hdir : fs.follow front with
      | error e =>
        rw [hdir] at h
        cases h
      | ok d =>
        rw [hdir] at h
        change (step fs.node? d (.name s) >>= fun _ => pure (d ++ [s])) = _ at h
        obtain ⟨left, hleft⟩ := walk_append hdir
        rw [follow, hleft]
        cases hstep : step fs.node? d (.name s) with
        | error e =>
          rw [hstep] at h
          cases h
        | ok r =>
          rw [hstep] at h
          obtain rfl := Except.ok.inj h
          rcases step_name_cases hstep with ⟨rfl, -⟩ | ⟨t, -, ht⟩
          · rw [walk_cons hstep, walk_nil]
          · exact absurd ht (hlink t)
    · exact h

end FileSystem

end HarnessRepair
