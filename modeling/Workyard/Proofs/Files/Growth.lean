/-
**Names go on leading where they led.**

A tree grows when files get other contents and when a file is put where there was nothing. What a name
is walked through is a directory or a link, and neither goes away; a walk that has come to an end comes to
the same end in the grown tree.

* `Tree.Extends`: a tree has grown out of another;
* `walk_extends`, `locate_extends`: a name leads to the same path;
* `openAppend_spec`: opening a file leaves a tree in which its name leads to it;
* `append_spec`: what is appended to a file comes behind what it held;
* `locate_in_root`, `openAppend_free`: a file is created under a name for which there is nothing.
-/

import Mathlib.Tactic.SplitIfs
import Workyard.Files.Machine

namespace Workyard.Files

/-! ### Looking up -/

theorem lookup_filter_ne {α β : Type} [BEq α] [LawfulBEq α] [DecidableEq α] {key other : α}
    (entries : List (α × β)) (apart : other ≠ key) :
    (entries.filter (·.1 ≠ key)).lookup other = entries.lookup other := by
  induction entries with
  | nil => rfl
  | cons entry rest hypothesis =>
    obtain ⟨first, value⟩ := entry
    by_cases same : first = key
    · have passed : (other == first) = false := beq_false_of_ne (same ▸ apart)
      rw [List.filter_cons_of_neg (by simpa using same), hypothesis, List.lookup_cons, passed]
    · rw [List.filter_cons_of_pos (by simpa using same), List.lookup_cons, List.lookup_cons, hypothesis]

/-- An entry takes the place of those with its key. -/
theorem lookup_replace {α β : Type} [BEq α] [LawfulBEq α] [DecidableEq α] (key other : α) (value : β)
    (entries : List (α × β)) :
    ((key, value) :: entries.filter (·.1 ≠ key)).lookup other =
      if other = key then some value else entries.lookup other := by
  by_cases same : other = key
  · rw [if_pos same, same, List.lookup_cons_self]
  · have apart : (other == key) = false := beq_false_of_ne same
    rw [if_neg same, List.lookup_cons, apart]
    exact lookup_filter_ne entries same

/-- What a file holds. -/
def Kind.octets? : Kind → Option (List UInt8)
  | .file octets => some octets
  | _ => none

/-- What a node is, whatever it holds if it is a file. -/
def Kind.shape : Kind → Kind
  | .file _ => .file []
  | kind => kind

namespace Tree

variable {tree larger : Tree} {number other : Nat} {path : Path} {node : Node} {name : String}

/-- What the node with a number is. -/
def kind? (tree : Tree) (number : Nat) : Option Kind := (tree.node? number).map Node.kind

/-- What the file with a number holds. -/
def octets? (tree : Tree) (number : Nat) : Option (List UInt8) :=
  (tree.kind? number).bind Kind.octets?

/-- What stands under a path. -/
theorem kind_get (tree : Tree) (path : Path) :
    (tree.get? path).map Node.kind = (tree.number? path).bind tree.kind? := by
  unfold get? kind?
  cases tree.number? path <;> rfl

@[simp] theorem number?_put : (tree.put number node).number? path = tree.number? path := rfl

@[simp] theorem kind?_put :
    (tree.put number node).kind? other =
      if other = number then some node.kind else tree.kind? other := by
  unfold put kind? node?
  rw [lookup_replace, apply_ite (Option.map Node.kind), Option.map_some]

@[simp] theorem number?_mark (place : Path) : (tree.mark place).number? path = tree.number? path := by
  unfold mark
  repeat' split
  all_goals rfl

@[simp] theorem kind?_mark (place : Path) : (tree.mark place).kind? number = tree.kind? number := by
  unfold mark
  split
  · split
    · next held found =>
      rw [kind?_put]
      split
      · next same => rw [same, kind?, found]; rfl
      · rfl
    · rfl
  · rfl

@[simp] theorem number?_name (place : Path) :
    (tree.name place number).number? path =
      if path = place then some number else tree.number? path := by
  unfold name
  rw [number?_mark]
  exact lookup_replace place path number tree.names

@[simp] theorem kind?_name (place : Path) : (tree.name place number).kind? other = tree.kind? other := by
  unfold name
  rw [kind?_mark]
  rfl

theorem number?_create (place : Path) :
    (tree.create place node).1.number? path =
      if path = place then some tree.fresh else tree.number? path := by
  unfold create
  rw [number?_name]
  rfl

theorem kind?_create (place : Path) :
    (tree.create place node).1.kind? number =
      if number = tree.fresh then some node.kind else tree.kind? number := by
  unfold create
  rw [kind?_name, kind?_put]
  rfl

theorem here_mark (place : Path) : (tree.mark place).here = tree.here := by
  unfold mark
  repeat' split
  all_goals rfl

theorem fresh_mark (place : Path) : (tree.mark place).fresh = tree.fresh := by
  unfold mark
  repeat' split
  all_goals rfl

theorem here_create : (tree.create path node).1.here = tree.here := here_mark path

theorem fresh_create : (tree.create path node).1.fresh = tree.fresh + 1 := fresh_mark path

/-! ### Growing -/

/-- A tree has grown out of another: what is there stays, though a file may hold something else, and
where there was nothing there is no link. -/
structure Extends (larger tree : Tree) : Prop where
  here : larger.here = tree.here
  kept : ∀ path number kind, tree.number? path = some number → tree.kind? number = some kind →
    larger.number? path = some number ∧ (larger.kind? number).map Kind.shape = some kind.shape
  new : ∀ path, (tree.number? path).bind tree.kind? = none →
    ∀ target, (larger.number? path).bind larger.kind? ≠ some (.link target)

theorem Extends.refl (tree : Tree) : tree.Extends tree where
  here := rfl
  kept path number kind found is := ⟨found, by rw [is]; rfl⟩
  new path free target link := by rw [free] at link; cases link

/-- What is there is of the same shape as before. -/
theorem Extends.shape (grown : larger.Extends tree) {kind : Kind}
    (before : (tree.number? path).bind tree.kind? = some kind) :
    ∃ after, (larger.number? path).bind larger.kind? = some after ∧ after.shape = kind.shape := by
  obtain ⟨number, found, is⟩ := Option.bind_eq_some_iff.mp before
  obtain ⟨stays, shape⟩ := grown.kept path number kind found is
  rw [stays, Option.bind_some]
  exact Option.map_eq_some_iff.mp shape

/-- What can be walked through still can. -/
theorem Extends.enter (grown : larger.Extends tree) (entered : tree.enter path = .ok ()) :
    larger.enter path = .ok () := by
  unfold Tree.enter at entered ⊢
  rw [kind_get] at entered ⊢
  split at entered
  · next directory =>
    obtain ⟨kind, still, same⟩ := grown.shape directory
    rw [still]
    cases kind <;> cases same
    rfl
  · cases entered
  · cases entered

/-- The same paths are links, to the same names. -/
theorem Extends.link_iff (grown : larger.Extends tree) (path : Path) (target : String) :
    (larger.get? path).map Node.kind = some (.link target) ↔
      (tree.get? path).map Node.kind = some (.link target) := by
  rw [kind_get, kind_get]
  cases before : (tree.number? path).bind tree.kind? with
  | none => simpa using grown.new path before target
  | some kind =>
    obtain ⟨after, still, same⟩ := grown.shape before
    rw [still]
    cases kind <;> cases after <;> simp [Kind.shape] at same ⊢
    rw [same]

/-- The name that a path on the way stands for, if it is a link that is followed. -/
def target? (tree : Tree) (follow : Bool) (path : Path) (rest : List (List Char)) : Option String :=
  match (tree.get? path).map Node.kind with
  | some (.link target) => if rest = [] && !follow then none else some target
  | _ => none

theorem target?_eq_some_iff {follow : Bool} {rest : List (List Char)} {target : String} :
    tree.target? follow path rest = some target ↔
      (tree.get? path).map Node.kind = some (.link target) ∧ ¬ (rest = [] && !follow) = true := by
  unfold target?
  split
  · next held =>
    rw [held]
    split <;> simp_all
  · next other =>
    simp only [reduceCtorEq, false_iff]
    exact fun link => other target link.1

theorem Extends.target? (grown : larger.Extends tree) (follow : Bool) (path : Path)
    (rest : List (List Char)) : larger.target? follow path rest = tree.target? follow path rest := by
  refine Option.ext fun target => ?_
  rw [target?_eq_some_iff, target?_eq_some_iff, grown.link_iff]

/-- Walks on behind a part of a name, from the place that it stands for. -/
def pass (tree : Tree) (follow : Bool) (links : Nat) (path next : Path) (rest : List (List Char)) :
    Except OsFault Location :=
  match tree.target? follow next rest, links with
  | some _, 0 => .error .tooManyLinks
  | some target, links + 1 =>
    let start := if target.startsWith "/" then [] else path
    tree.walk follow links start (parts target.toList ++ rest)
  | none, links =>
    if rest = [] then .ok (tree.look next false)
    else if rest.all (· = []) then .ok (tree.look next true)
    else tree.walk follow links next rest

theorem walk_cons (follow : Bool) (links : Nat) (part : List Char) (rest : List (List Char)) :
    tree.walk follow links path (part :: rest) = (do
      tree.enter path
      if part = [] || part = ['.'] then tree.walk follow links path rest
      else if part = ['.', '.'] then tree.walk follow links path.dropLast rest
      else if maxPart < Text.Utf8.size part then .error .nameTooLong
      else tree.pass follow links path (path ++ [String.ofList part]) rest) :=
  walk.eq_2 tree follow links path part rest

/-- **A walk comes to the same end in a grown tree.** -/
theorem walk_extends {follow : Bool} {links : Nat} {way : List (List Char)} {location : Location}
    (grown : larger.Extends tree) (walked : tree.walk follow links path way = .ok location) :
    larger.walk follow links path way =
      .ok (larger.look location.path location.mustBeDirectory) := by
  -- a link that is followed makes the way longer, but fewer links may be followed then
  induction links using Nat.strongRecOn generalizing path way with
  | ind links fewer =>
    induction way generalizing path with
    | nil =>
      rw [walk.eq_1] at walked ⊢
      cases walked
      rfl
    | cons part rest shorter =>
      rw [walk_cons] at walked ⊢
      cases entered : tree.enter path with
      | error fault => rw [entered] at walked; cases walked
      | ok =>
        rw [entered] at walked
        rw [grown.enter entered]
        simp only [bind, Except.bind] at walked ⊢
        split_ifs at walked ⊢ with stays back long
        · exact shorter walked
        · exact shorter walked
        · unfold pass at walked ⊢
          rw [grown.target?]
          split at walked
          · cases walked
          · next target links followed => exact fewer links (Nat.lt_succ_self links) walked
          · split_ifs at walked ⊢ with last behind
            · cases walked; rfl
            · cases walked; rfl
            · exact shorter walked

theorem locate_extends {follow : Bool} {location : Location} (grown : larger.Extends tree)
    (located : tree.locate name follow = .ok location) :
    larger.locate name follow = .ok (larger.look location.path location.mustBeDirectory) := by
  unfold locate at located ⊢
  rw [grown.here]
  simp only at located ⊢
  split_ifs at located ⊢ with nul empty long
  all_goals
    cases walked : tree.walk follow maxLinks _ (parts name.toList) with
    | error fault => rw [walked] at located; cases located
    | ok location =>
      rw [walked] at located
      cases located
      rw [walk_extends grown walked]
      rfl

/-- A name leads to what stands under a path. -/
theorem eq_look_of_locate {follow : Bool} {location : Location}
    (located : tree.locate name follow = .ok location) :
    location = tree.look location.path location.mustBeDirectory :=
  Except.ok.inj (located.symm.trans (locate_extends (Extends.refl tree) located))

/-! ### Putting files into a tree -/

/-- No node has the number that the next one gets, nor any greater one. -/
def Numbered (tree : Tree) : Prop := ∀ number, tree.fresh ≤ number → tree.node? number = none

theorem Numbered.kind? (numbered : tree.Numbered) (unused : tree.fresh ≤ number) :
    tree.kind? number = none := by
  rw [Tree.kind?, numbered number unused]
  rfl

/-- A tree grows when a number gets a file, if it had none or a file before, and paths under which there
was nothing may get the number. -/
theorem Extends.of_file {octets : List UInt8} (here : larger.here = tree.here)
    (before : ∀ kind, tree.kind? number = some kind → kind.shape = .file [])
    (numbers : ∀ path, larger.number? path = tree.number? path ∨
      (tree.number? path).bind tree.kind? = none ∧ larger.number? path = some number)
    (kinds : ∀ other, larger.kind? other =
      if other = number then some (.file octets) else tree.kind? other) : larger.Extends tree where
  here := here
  kept path other kind found is := by
    rcases numbers path with same | ⟨nothing, -⟩
    · refine ⟨same.trans found, ?_⟩
      rw [kinds]
      split
      · next numbered => rw [before kind (numbered ▸ is)]; rfl
      · rw [is]; rfl
    · rw [found, Option.bind_some, is] at nothing
      cases nothing
  new path nothing target := by
    have file : larger.kind? number ≠ some (.link target) := by rw [kinds, if_pos rfl]; simp
    rcases numbers path with same | ⟨-, now⟩
    · cases found : tree.number? path with
      | none => rw [same, found]; simp
      | some other =>
        rw [found, Option.bind_some] at nothing
        rw [same, found, Option.bind_some]
        by_cases numbered : other = number
        · rwa [numbered]
        · rw [kinds, if_neg numbered, nothing]; simp
    · rwa [now]

/-- A file may get other contents. -/
theorem Extends.put_file {before after : List UInt8} (held : tree.kind? number = some (.file before))
    (file : node.kind = .file after) : (tree.put number node).Extends tree := by
  refine .of_file rfl (fun kind is => ?_) (fun path => .inl number?_put)
    (fun other => by rw [kind?_put, file])
  rw [held] at is
  cases is
  rfl

/-- A file may be created where there is nothing. -/
theorem Extends.create_file (numbered : tree.Numbered) {octets : List UInt8}
    (free : (tree.number? path).bind tree.kind? = none) (file : node.kind = .file octets) :
    (tree.create path node).1.Extends tree := by
  have kinds (other : Nat) : (tree.create path node).1.kind? other =
      if other = tree.fresh then some (.file octets) else tree.kind? other := by
    rw [kind?_create, file]
  refine .of_file here_create (fun kind is => ?_) (fun other => ?_) kinds
  · rw [numbered.kind? (Nat.le_refl _)] at is
    cases is
  · rw [number?_create]
    split
    · next same => exact .inr ⟨same ▸ free, rfl⟩
    · exact .inl rfl

theorem Numbered.create (numbered : tree.Numbered) : (tree.create path node).1.Numbered := by
  intro number unused
  rw [fresh_create] at unused
  have free : (tree.create path node).1.kind? number = none := by
    rw [kind?_create, if_neg (by omega)]
    exact numbered.kind? (by omega)
  exact Option.map_eq_none_iff.mp free

theorem numbered_numbered (nodes : List (Path × Node)) (here : Path) :
    (numbered nodes here).Numbered := by
  intro number unused
  refine List.lookup_eq_none_iff.mpr fun entry member => ?_
  obtain ⟨index, within, rfl⟩ := List.mem_mapIdx.mp member
  have below : index + 1 < number := Nat.lt_of_lt_of_le (Nat.succ_lt_succ within) unused
  exact bne_iff_ne.mpr (Nat.ne_of_gt below)

/-! ### Opening and appending -/

/-- A name leads to the file with a number. -/
def IsFile (tree : Tree) (name : String) (number : Nat) : Prop :=
  (tree.octets? number).isSome ∧ ∃ path, tree.locate name = .ok ⟨path, some number, false⟩

theorem octets?_eq_some_iff {octets : List UInt8} :
    tree.octets? number = some octets ↔ tree.kind? number = some (.file octets) := by
  unfold octets?
  cases tree.kind? number with
  | none => simp
  | some kind => cases kind <;> simp [Kind.octets?]

/-- A name goes on leading to its file. -/
theorem IsFile.extends (file : tree.IsFile name number) (grown : larger.Extends tree) :
    larger.IsFile name number := by
  obtain ⟨held, path, located⟩ := file
  obtain ⟨octets, held⟩ := Option.isSome_iff_exists.mp held
  rw [octets?_eq_some_iff] at held
  have found : tree.number? path = some number :=
    (congrArg Location.number (eq_look_of_locate located)).symm
  obtain ⟨stays, shape⟩ := grown.kept path number _ found held
  obtain ⟨kind, is, same⟩ := Option.map_eq_some_iff.mp shape
  constructor
  · cases kind <;> cases same
    rw [octets?_eq_some_iff.mpr is]
    rfl
  · refine ⟨path, ?_⟩
    rw [locate_extends grown located]
    unfold look
    rw [stays]

/-- Opening a file again finds it. -/
theorem IsFile.openAppend (file : tree.IsFile name number) :
    tree.openAppend name = .ok (tree, number) := by
  obtain ⟨held, path, located⟩ := file
  obtain ⟨octets, held⟩ := Option.isSome_iff_exists.mp held
  obtain ⟨node, found, is⟩ := Option.map_eq_some_iff.mp (octets?_eq_some_iff.mp held)
  unfold Tree.openAppend
  rw [located]
  simp only [bind, Except.bind, Option.bind_some, found, Option.map_some]
  rw [is]

/-- Reading a file gives what it holds. -/
theorem IsFile.read {octets : List UInt8} (file : tree.IsFile name number)
    (held : tree.octets? number = some octets) : tree.read name = .ok octets := by
  obtain ⟨-, path, located⟩ := file
  obtain ⟨⟨kind, mode, time⟩, found, is⟩ := Option.map_eq_some_iff.mp (octets?_eq_some_iff.mp held)
  cases is
  unfold Tree.read openRead entry
  rw [located]
  simp only [bind, Except.bind, Option.bind_some, found, Option.map_some]
  rfl

/-- What opening a file does: it finds a node, or it creates a file where there is nothing. -/
theorem openAppend_cases (opened : tree.openAppend name = .ok (larger, number)) :
    ∃ path, (larger = tree ∧ tree.locate name = .ok ⟨path, some number, false⟩) ∨
      ∃ node, node.kind = .file [] ∧ (tree.number? path).bind tree.kind? = none ∧
        tree.locate name = .ok (tree.look path false) ∧ larger = (tree.create path node).1 ∧
        number = tree.fresh := by
  unfold Tree.openAppend at opened
  cases located : tree.locate name with
  | error fault => rw [located] at opened; cases opened
  | ok location =>
    obtain ⟨path, place, directory⟩ := location
    obtain rfl : place = tree.number? path := congrArg Location.number (eq_look_of_locate located)
    rw [located] at opened
    simp only [bind, Except.bind] at opened
    refine ⟨path, ?_⟩
    split at opened
    · next found node there =>
      obtain ⟨other, stands, is⟩ := Option.bind_eq_some_iff.mp there
      obtain ⟨held, -, same⟩ := Option.map_eq_some_iff.mp is
      obtain ⟨rfl, rfl⟩ := Prod.mk.inj same
      split at opened
      any_goals cases opened
      next plain _ _ =>
        rw [Bool.eq_false_iff.mpr plain, stands]
        exact .inl ⟨rfl, rfl⟩
    · next nothing =>
      split_ifs at opened with folder
      have file : directory = false := Bool.eq_false_iff.mpr folder
      unfold createAt at opened
      split at opened
      · cases opened
      · obtain ⟨rfl, rfl⟩ := Prod.mk.inj (Except.ok.inj opened)
        refine .inr ⟨_, rfl, ?_, by rw [file]; rfl, rfl, rfl⟩
        unfold Tree.kind?
        cases stands : tree.number? path with
        | none => rfl
        | some other => simpa [stands] using nothing

/-- **A file that has been opened is found under its name**, and all others are left as they were. -/
theorem openAppend_spec (numbered : tree.Numbered)
    (opened : tree.openAppend name = .ok (larger, number)) :
    larger.Extends tree ∧ larger.Numbered ∧
      (∀ other, other ≠ number → larger.octets? other = tree.octets? other) ∧
      ((larger.octets? number).isSome → larger.IsFile name number) := by
  obtain ⟨path, ⟨rfl, located⟩ | ⟨node, file, free, located, rfl, rfl⟩⟩ :=
    openAppend_cases opened
  · exact ⟨Extends.refl larger, numbered, fun _ _ => rfl, fun held => ⟨held, path, located⟩⟩
  · have grown := Extends.create_file numbered free file
    refine ⟨grown, numbered.create, fun other apart => ?_, fun held => ⟨held, path, ?_⟩⟩
    · rw [octets?, kind?_create, if_neg apart]
      rfl
    · rw [locate_extends grown located]
      unfold look
      rw [number?_create, if_pos rfl]

/-- **What is appended to a file comes behind what it held**, and no other file is changed. -/
theorem append_spec {before : List UInt8} (held : tree.octets? number = some before)
    (octets : List UInt8) :
    ∃ larger, tree.append number octets = .ok larger ∧ larger.Extends tree ∧
      larger.octets? number = some (before ++ octets) ∧
      ∀ other, other ≠ number → larger.octets? other = tree.octets? other := by
  rw [octets?_eq_some_iff] at held
  obtain ⟨node, found, is⟩ := Option.map_eq_some_iff.mp held
  refine ⟨tree.put number ⟨.file (before ++ octets), node.mode, tree.now⟩, ?_,
    Extends.put_file held rfl, ?_, fun other apart => ?_⟩
  · simp only [Tree.append, found, is]
  · rw [octets?_eq_some_iff, kind?_put, if_pos rfl]
  · rw [octets?, kind?_put, if_neg apart]
    rfl

/-! ### Names for which there is nothing -/

/-- Files can be created under a path. -/
def Unsealed (path : Path) : Prop := (path.head?.bind fun root => sealedRoots.lookup root) = none

/-- A file is created where there is nothing. -/
theorem openAppend_free (located : tree.locate name = .ok ⟨path, none, false⟩)
    (unsealed : Unsealed path) :
    ∃ larger, tree.openAppend name = .ok (larger, tree.fresh) ∧
      larger.octets? tree.fresh = some [] ∧ larger.fresh = tree.fresh + 1 ∧
      ∀ other, other ≠ path → larger.number? other = tree.number? other := by
  refine ⟨(tree.create path ⟨.file [], tree.masked 0o666, tree.now⟩).1, ?_, ?_, fresh_create,
    fun other apart => ?_⟩
  · unfold Tree.openAppend
    rw [located]
    simp only [bind, Except.bind, Option.bind_none, Bool.false_eq_true, if_false, createAt]
    rw [unsealed]
    rfl
  · rw [octets?_eq_some_iff, kind?_create, if_pos rfl]
  · rw [number?_create, if_neg apart]

theorem parts_of_not_mem {part : List Char} (single : '/' ∉ part) : parts part = [part] := by
  induction part with
  | nil => rfl
  | cons c rest hypothesis =>
    rw [List.mem_cons, not_or] at single
    rw [parts.eq_3 c rest (Ne.symm single.1), hypothesis single.2]

/-- A name in the root leads to the place for it. -/
theorem locate_in_root (root : tree.enter [] = .ok ()) (part : List Char)
    (proper : part ≠ [] ∧ part ≠ ['.'] ∧ part ≠ ['.', '.']) (plain : '/' ∉ part ∧ '\x00' ∉ part)
    (short : Text.Utf8.size part ≤ maxPart) (free : tree.number? [String.ofList part] = none) :
    tree.locate (String.ofList ('/' :: part)) = .ok ⟨[String.ofList part], none, false⟩ := by
  obtain ⟨notEmpty, notHere, notUp⟩ := proper
  obtain ⟨slash, nul⟩ := plain
  have split : parts ('/' :: part) = [[], part] := congrArg ([] :: ·) (parts_of_not_mem slash)
  have whole : ('/' :: part).contains '\x00' = false := by simpa using nul
  have fits : ¬ maxName < Text.Utf8.size ('/' :: part) := by
    have one : '/'.utf8Size = 1 := by decide
    rw [Text.Utf8.size_cons, one]
    unfold maxPart at short
    unfold maxName
    omega
  have link : tree.target? true [String.ofList part] [] = none := by
    rw [Tree.target?, get?, free]
    rfl
  have step : tree.walk true maxLinks [] [[], part] = .ok ⟨[String.ofList part], none, false⟩ := by
    simp only [walk_cons, root, bind, Except.bind, notEmpty, notHere, notUp,
      Nat.not_lt_of_le short, decide_true, decide_false, Bool.true_or, Bool.or_self,
      Bool.false_eq_true, if_true, if_false, pass, List.nil_append, link, look, free]
  unfold locate
  simp only [String.toList_ofList, whole, fits, split, reduceCtorEq, if_false, Bool.false_eq_true,
    List.head?_cons, if_true, step]
  rfl

end Tree

end Workyard.Files
