import RunCharts.Proofs.Files.Keeps

/-! # The directory of a file

The path above that of a file in a directory is the path of the directory, but for what says nothing at its end
(`parent?_join`). So the directory of a file is there where the path that was given for it leads to anything
(`exists?_parent?_join`). -/

namespace RunCharts

namespace Files

namespace Path

theorem trimBehind_append_singleton {name : List Char} (hempty : name ≠ []) (hdot : name ≠ ['.'])
    (front : List (List Char)) : trimBehind (front ++ [name]) = front ++ [name] := by
  induction front with
  | nil => simp [trimBehind, hempty, hdot]
  | cons part rest ih =>
    rw [List.cons_append, trimBehind, ih]
    cases rest <;> rfl

theorem trimParts_append_singleton {name : List Char} (hempty : name ≠ []) (hdot : name ≠ ['.'])
    (front : List (List Char)) : trimParts (front ++ [name]) = front ++ [name] := by
  cases front with
  | nil => simp [trimParts, trimBehind, hempty]
  | cons part rest =>
    rw [List.cons_append, trimParts, trimBehind_append_singleton hempty hdot]
    cases rest <;> rfl

theorem trimBehind_append {behind : List (List Char)} (hbehind : ∀ part ∈ behind, part = [] ∨ part = ['.'])
    (front : List (List Char)) : trimBehind (front ++ behind) = trimBehind front := by
  induction front with
  | nil =>
    rw [List.nil_append, trimBehind]
    induction behind with
    | nil => rfl
    | cons part rest ih =>
      rw [List.forall_mem_cons] at hbehind
      rw [trimBehind, ih hbehind.2]
      exact if_pos hbehind.1
  | cons part rest ih => rw [List.cons_append, trimBehind, trimBehind, ih]

theorem trimParts_append {front behind : List (List Char)} (hbehind : ∀ part ∈ behind, part = [] ∨ part = ['.'])
    (hne : front ≠ []) : trimParts (front ++ behind) = trimParts front := by
  obtain ⟨first, rest, rfl⟩ := List.exists_cons_of_ne_nil hne
  rw [List.cons_append, trimParts, trimParts, trimBehind_append hbehind]

theorem exists_trimBehind_append (parts : List (List Char)) : ∃ tail, parts = trimBehind parts ++ tail ∧
    (∀ part ∈ tail, part = [] ∨ part = ['.']) ∧ ∀ last ∈ (trimBehind parts).getLast?, last ≠ [] := by
  induction parts with
  | nil => exact ⟨[], rfl, by simp, by simp [trimBehind]⟩
  | cons part rest ih =>
    obtain ⟨tail, hrest, htail, hlast⟩ := ih
    rw [trimBehind]
    cases hbehind : trimBehind rest with
    | nil =>
      rw [hbehind] at hrest
      by_cases hpart : part = [] ∨ part = ['.']
      · rw [if_pos hpart]
        exact ⟨part :: tail, by rw [hrest]; rfl, by simpa [hpart] using htail, by simp⟩
      · rw [if_neg hpart]
        exact ⟨tail, by rw [hrest]; rfl, htail, by simpa using fun h => hpart (.inl h)⟩
    | cons second others =>
      rw [hbehind] at hrest hlast
      exact ⟨tail, by rw [hrest]; rfl, htail, by simpa using hlast⟩

theorem exists_trimParts_append (parts : List (List Char)) : ∃ tail, parts = trimParts parts ++ tail ∧
    (∀ part ∈ tail, part = [] ∨ part = ['.']) ∧ ∀ last ∈ (trimParts parts).getLast?, last ≠ [] := by
  cases parts with
  | nil => exact ⟨[], rfl, by simp, by simp [trimParts]⟩
  | cons first rest =>
    obtain ⟨tail, hrest, htail, hlast⟩ := exists_trimBehind_append rest
    rw [trimParts]
    cases hbehind : trimBehind rest with
    | nil =>
      rw [hbehind] at hrest
      by_cases hfirst : first = []
      · rw [if_pos hfirst]
        exact ⟨first :: tail, by rw [hrest]; rfl, by simpa [hfirst] using htail, by simp⟩
      · rw [if_neg hfirst]
        exact ⟨tail, by rw [hrest]; rfl, htail, by simpa using hfirst⟩
    | cons second others =>
      rw [hbehind] at hrest hlast
      exact ⟨tail, by rw [hrest]; rfl, htail, by simpa using hlast⟩

theorem head?_of_trimParts_eq_nil {parts : List (List Char)} (h : trimParts parts = []) (hne : parts ≠ []) :
    parts.head? = some [] := by
  cases parts with
  | nil => exact absurd rfl hne
  | cons first rest =>
    rw [trimParts] at h
    split at h
    · split at h
      · rename_i hfirst
        rw [hfirst, List.head?_cons]
      · cases h
    · cases h

section

variable {root : Path} {name : String}

theorem parent?_of_trimParts {path : Path} {front : List (List Char)} {last : List Char}
    (h : trimParts path.parts = front ++ [last]) : path.parent? =
      match trimParts front with
      | [] => some (if path.IsAbsolute then "/" else "")
      | above => some (ofParts above) := by
  rw [parent?, h]
  cases front with
  | nil => rfl
  | cons part rest =>
    have hdrop : (part :: (rest ++ [last])).dropLast = part :: rest := by
      rw [← List.cons_append, List.dropLast_concat]
    rw [List.cons_append]
    dsimp only
    generalize (part :: (rest ++ [last])).dropLast = above at hdrop ⊢
    subst hdrop
    rcases trimParts (part :: rest) with _ | ⟨_, _⟩ <;> rfl

theorem parent?_of_parts {path : Path} {front : List (List Char)} {last : List Char} (hempty : last ≠ [])
    (hdot : last ≠ ['.']) (h : path.parts = front ++ [last]) : path.parent? =
      match trimParts front with
      | [] => some (if path.IsAbsolute then "/" else "")
      | above => some (ofParts above) :=
  parent?_of_trimParts (by rw [h, trimParts_append_singleton hempty hdot])

/-- The path of a file: its name comes behind the parts `front`, and what comes behind the name says nothing. -/
def NamesIn (path : Path) (front : List (List Char)) (name : List Char) : Prop :=
  name ∉ [[], ['.'], ['.', '.']] ∧
    ∃ behind, path.parts = front ++ name :: behind ∧ ∀ part ∈ behind, part = [] ∨ part = ['.']

namespace NamesIn

variable {path : Path} {front : List (List Char)} {name : List Char}

theorem trimParts_parts (h : path.NamesIn front name) : trimParts path.parts = front ++ [name] := by
  obtain ⟨hname, behind, hparts, hbehind⟩ := h
  simp only [List.mem_cons, List.not_mem_nil, or_false, not_or] at hname
  rw [hparts, List.append_cons, trimParts_append hbehind (by simp), trimParts_append_singleton hname.1 hname.2.1]

theorem fileName? (h : path.NamesIn front name) : path.fileName? = some name := by
  have hname := h.1
  simp only [List.mem_cons, List.not_mem_nil, or_false, not_or] at hname
  rw [Path.fileName?, h.trimParts_parts, List.getLast?_concat, Option.filter_some, if_pos (decide_eq_true hname.2)]

theorem exists_parent? (h : path.NamesIn front name) : ∃ dir, path.parent? = some dir := by
  rw [parent?_of_trimParts h.trimParts_parts]
  split <;> exact ⟨_, rfl⟩

end NamesIn

theorem exists_namesIn {path : Path} {name : List Char} (h : path.fileName? = some name) :
    ∃ front, path.NamesIn front name := by
  obtain ⟨hlast, hdots⟩ := Option.filter_eq_some_iff.1 h
  obtain ⟨front, hfront⟩ := List.getLast?_eq_some_iff.1 hlast
  obtain ⟨behind, hparts, hbehind, hsays⟩ := exists_trimParts_append path.parts
  have hempty : name ≠ [] := hsays name (by rw [hlast]; rfl)
  refine ⟨front, ?_, behind, ?_, hbehind⟩
  · simpa [hempty] using hdots
  · rw [hparts, hfront, List.append_assoc, List.singleton_append]

/-- The last part of a path is a name. -/
def EndsIn (path : Path) (front : List (List Char)) (last : List Char) : Prop :=
  path.parts = front ++ [last] ∧ last ∉ [[], ['.'], ['.', '.']]

theorem EndsIn.namesIn {path : Path} {front : List (List Char)} {last : List Char} (h : path.EndsIn front last) :
    path.NamesIn front last := ⟨h.2, [], h.1, by simp⟩

theorem EndsIn.fileName? {path : Path} {front : List (List Char)} {last : List Char} (h : path.EndsIn front last) :
    path.fileName? = some last := h.namesIn.fileName?

theorem EndsIn.exists_parent? {path : Path} {front : List (List Char)} {last : List Char} (h : path.EndsIn front last) :
    ∃ dir, path.parent? = some dir := h.namesIn.exists_parent?

theorem exists_endsIn_of_steps {path : Path} {front : List String} {name : String} (h : path.steps = front ++ [name])
    (hname : name ∉ ["", ".", ".."]) : ∃ front, path.EndsIn front name.toList := by
  obtain ⟨parts, part, hparts⟩ := path.exists_parts_eq
  rw [steps_of_parts hparts] at h
  obtain rfl := List.singleton_inj.1 (List.append_inj_right' h rfl)
  rw [String.toList_ofList]
  refine ⟨parts, hparts, fun hpart => hname ?_⟩
  simp only [List.mem_cons, List.not_mem_nil, or_false] at hpart
  rcases hpart with rfl | rfl | rfl <;> simp

theorem steps_eq_names {path : Path} (h : ∀ last ∈ path.parts.getLast?, last ≠ []) :
    path.steps = path.names := by
  obtain ⟨front, last, hparts⟩ := path.exists_parts_eq
  have hlast : last ≠ [] := h last (by simp [hparts])
  rw [steps_of_parts hparts, names, hparts, List.filter_append, List.map_append]
  simp [hlast]

theorem isAbsolute_of_head?_parts {path : Path} (hne : path ≠ "") (h : path.parts.head? = some []) :
    path.IsAbsolute := by
  have htext := Text.intercalate_fields '/' path.toList
  obtain ⟨rest, hrest⟩ := List.head?_eq_some_iff.1 h
  rw [parts] at hrest
  rw [hrest] at htext
  by_cases hempty : rest = []
  · rw [hempty, List.intercalate_singleton] at htext
    exact absurd (String.toList_eq_nil_iff.1 htext.symm) hne
  · rw [List.intercalate_cons_of_ne_nil hempty] at htext
    rw [IsAbsolute, ← htext]
    rfl

/-- A text that some parts of a path make is a path with these parts. -/
theorem parts_ofParts {path : Path} {above tail : List (List Char)} (h : path.parts = above ++ tail)
    (hne : above ≠ []) : (ofParts above).parts = above ∧ (ofParts above).toList <+: path.toList := by
  rw [parts] at h
  rw [parts, ofParts, String.toList_ofList]
  constructor
  · exact Text.fields_intercalate hne fun part hpart =>
      Text.notMem_of_mem_fields (h ▸ List.mem_append_left tail hpart)
  · rw [← Text.intercalate_fields '/' path.toList, h]
    exact Text.intercalate_prefix_append '/' hne tail

theorem isAbsolute_of_prefix {path dir : Path} (hne : dir ≠ "") (h : dir.toList <+: path.toList) :
    dir.IsAbsolute ↔ path.IsAbsolute := by
  obtain ⟨more, hmore⟩ := h
  obtain ⟨c, text, hcons⟩ := List.exists_cons_of_ne_nil (show dir.toList ≠ [] by simpa using hne)
  rw [IsAbsolute, IsAbsolute, ← hmore, hcons, List.cons_append, List.head?_cons, List.head?_cons]

/-- The path above another one is its first part and makes its first steps, or it is where it starts. -/
theorem parent?_eq_some {path dir : Path} (h : path.parent? = some dir) : (dir.IsAbsolute ↔ path.IsAbsolute) ∧
    (dir = "" ∨ dir = "/" ∨ dir.toList <+: path.toList ∧ dir.steps <+: path.steps) := by
  rw [parent?] at h
  obtain ⟨tail, htrim, -, -⟩ := exists_trimParts_append path.parts
  cases hkept : trimParts path.parts with
  | nil =>
    rw [hkept] at h
    cases h
  | cons first rest =>
    rw [hkept] at h htrim
    dsimp only at h
    obtain ⟨behind, hfront, -, hlast⟩ := exists_trimParts_append (first :: rest).dropLast
    cases habove : trimParts (first :: rest).dropLast with
    | nil =>
      rw [habove] at h
      dsimp only at h
      by_cases habsolute : path.IsAbsolute
      · rw [if_pos habsolute] at h
        obtain rfl := Option.some.inj h
        exact ⟨iff_of_true (by decide) habsolute, .inr (.inl rfl)⟩
      · rw [if_neg habsolute] at h
        obtain rfl := Option.some.inj h
        exact ⟨iff_of_false (by decide) habsolute, .inl rfl⟩
    | cons part others =>
      rw [habove] at h hfront hlast
      dsimp only at h
      obtain rfl := Option.some.inj h
      obtain ⟨last, hlastKept⟩ : ∃ last, first :: rest = (first :: rest).dropLast ++ [last] :=
        ⟨_, (List.dropLast_concat_getLast (List.cons_ne_nil first rest)).symm⟩
      have hall : path.parts = (part :: others) ++ (behind ++ [last] ++ tail) := by
        rw [htrim, hlastKept, hfront]
        simp
      obtain ⟨hparts, htext⟩ := parts_ofParts hall (List.cons_ne_nil part others)
      have hsteps : (ofParts (part :: others)).steps = (ofParts (part :: others)).names :=
        steps_eq_names (by rwa [hparts])
      refine ⟨?_, .inr (.inr ⟨htext, ?_⟩)⟩
      · have hne : ofParts (part :: others) ≠ "" := by
          intro hempty
          rw [hempty] at hparts
          exact hlast [] (by rw [← hparts]; rfl) rfl
        exact isAbsolute_of_prefix hne htext
      · rw [hsteps, names, hparts, steps, hall, List.dropLast_append_of_ne_nil (by simp), List.filter_append,
          List.append_assoc, List.map_append]
        exact List.prefix_append _ _

theorem check_of_prefix {path dir : Path} (h : path.check = .ok ()) (hdir : dir.toList <+: path.toList)
    (hne : dir ≠ "") : dir.check = .ok () := by
  obtain ⟨hnul, hlong, -⟩ := check_eq_ok_iff.1 h
  obtain ⟨more, hmore⟩ := hdir
  have htext : path = dir ++ String.ofList more := by
    rw [← String.toList_inj, String.toList_append, String.toList_ofList, hmore]
  refine check_eq_ok_iff.2 ⟨fun hmem => hnul (hmore ▸ List.mem_append_left more hmem), ?_, hne⟩
  rw [htext, String.utf8ByteSize_append] at hlong
  omega

/-- What passes from paths to those above them, and holds of a path, holds of all paths above it. -/
theorem of_mem_ancestors {motive : Path → Prop} {path above : Path}
    (hstep : ∀ path dir : Path, path ≠ "" → path.parent? = some dir → motive path → motive dir) (h : motive path)
    (habove : above ∈ path.ancestors) : above ≠ "" ∧ motive above := by
  rw [ancestors] at habove
  generalize path.parts.length = n at habove
  induction n generalizing path with
  | zero => cases habove
  | succ n ih =>
    rw [ancestors.go] at habove
    split at habove
    · cases habove
    · rename_i hne
      rcases List.mem_cons.1 habove with rfl | habove
      · exact ⟨hne, h⟩
      · cases hdir : path.parent? with
        | none =>
          rw [hdir] at habove
          cases habove
        | some dir =>
          rw [hdir] at habove
          exact ih (hstep path dir hne hdir h) habove

/-- The path above that of a file in a directory: the root, or the text of the directory but for what says
nothing at its end. -/
theorem parent?_join (hroot : root ≠ "") (hname : IsName name) : ∃ dir, (root.join name).parent? = some dir ∧
    (dir = "/" ∧ root.IsAbsolute ∨ dir ≠ "" ∧ dir.toList <+: root.toList ∧ dir.steps = dir.names ∧
      ∃ dots, root.names = dir.names ++ dots ∧ ∀ dot ∈ dots, dot = ".") := by
  obtain ⟨front, hparts, hne, hfront⟩ := parts_join hroot hname
  obtain ⟨extra, hextra, hempty⟩ : ∃ extra, root.parts = front ++ extra ∧ ∀ part ∈ extra, part = [] := by
    rcases hfront with h | h
    · exact ⟨[], by rw [h, List.append_nil], by simp⟩
    · exact ⟨[[]], h, by simp⟩
  rw [parent?_of_parts hname.toList_ne_nil hname.toList_ne_dot hparts]
  obtain ⟨tail, htrim, htail, hlast⟩ := exists_trimParts_append front
  cases habove : trimParts front with
  | nil =>
    have hhead : root.parts.head? = some [] := by
      rw [hextra, List.head?_append, head?_of_trimParts_eq_nil habove hne]
      rfl
    have habsolute := isAbsolute_of_head?_parts hroot hhead
    exact ⟨_, rfl, .inl ⟨by rw [if_pos ((isAbsolute_join hroot hname).2 habsolute)], habsolute⟩⟩
  | cons first rest =>
    rw [habove] at htrim hlast
    have hall : root.parts = (first :: rest) ++ (tail ++ extra) := by
      rw [hextra, htrim, List.append_assoc]
    obtain ⟨hdir, htext⟩ := parts_ofParts hall (List.cons_ne_nil first rest)
    refine ⟨_, rfl, .inr ⟨fun h => ?_, htext, steps_eq_names (by rwa [hdir]), ?_⟩⟩
    · rw [h] at hdir
      have hnil : parts "" = [[]] := rfl
      exact hlast [] (by rw [← hdir, hnil]; rfl) rfl
    · refine ⟨((tail ++ extra).filter (· ≠ [])).map String.ofList, ?_, fun dot hdot => ?_⟩
      · rw [names, names, hdir, hall, List.filter_append, List.map_append]
      · obtain ⟨part, hpart, rfl⟩ := List.mem_map.1 hdot
        obtain ⟨hmem, hne'⟩ := List.mem_filter.1 hpart
        rcases List.mem_append.1 hmem with h | h
        · rcases htail part h with rfl | rfl
          · exact absurd hne' (by simp)
          · rfl
        · rw [hempty part h] at hne'
          exact absurd hne' (by simp)

/-! ### Another extension -/

theorem stem_append {before extension : List Char} (hbefore : before ≠ []) (hextension : '.' ∉ extension) :
    stem (before ++ '.' :: extension) = before := by
  have hdrop : (before ++ '.' :: extension).reverse.dropWhile (· ≠ '.') = '.' :: before.reverse := by
    rw [List.reverse_append, List.reverse_cons, List.append_assoc, List.singleton_append,
      List.dropWhile_append_of_pos fun c hc => ?_, List.dropWhile_cons_of_neg (by simp)]
    simpa using fun h : c = '.' => hextension (h ▸ List.mem_reverse.1 hc)
  rw [stem, hdrop, List.tail_cons, List.reverse_reverse]
  cases before with
  | nil => exact absurd rfl hbefore
  | cons c rest => rfl

theorem withExtension_of_parts {path : Path} {front : List (List Char)} {before extension : List Char}
    (h : path.parts = front ++ [before ++ '.' :: extension]) (hbefore : before ≠ []) (hextension : '.' ∉ extension)
    (hne : extension ≠ []) (other : String) :
    path.withExtension other = ofParts (front ++ [before ++ '.' :: other.toList]) := by
  have hlong : 3 ≤ (before ++ '.' :: extension).length := by
    have := List.length_pos_iff.2 hbefore
    have := List.length_pos_iff.2 hne
    rw [List.length_append, List.length_cons]
    omega
  have hshort (name : List Char) (hname : name.length ≤ 2) : before ++ '.' :: extension ≠ name := by
    rintro rfl
    omega
  have hname : path.fileName? = some (before ++ '.' :: extension) := EndsIn.fileName? ⟨h, by simp [hshort]⟩
  rw [withExtension, hname]
  dsimp only
  rw [h, trimParts_append_singleton (hshort [] (by decide)) (hshort ['.'] (by decide)), List.dropLast_concat,
    stem_append hbefore hextension]

/-- What comes in front of the name of a file in a directory does not depend on the name. -/
theorem exists_parts_join (root : Path) : ∃ front, ∀ name, IsName name →
    (root.join name).parts = front ++ [name.toList] := by
  by_cases hroot : root = ""
  · refine ⟨[], fun name hname => ?_⟩
    rw [join, if_pos (.inr hroot)]
    exact parts_of_isName hname
  obtain ⟨front, -, -, hjoin⟩ := exists_front hroot
  exact ⟨front, fun name hname => by rw [hjoin name hname.not_isAbsolute, parts_of_isName hname]⟩

/-- A file in a directory with its extension changed is the file with the other extension there. -/
theorem withExtension_join {before extension other : String} (hname : IsName (before ++ "." ++ extension))
    (hother : IsName (before ++ "." ++ other)) (hbefore : before ≠ "") (hextension : '.' ∉ extension.toList)
    (hne : extension ≠ "") :
    (root.join (before ++ "." ++ extension)).withExtension other = root.join (before ++ "." ++ other) := by
  have htext (last : String) : (before ++ "." ++ last).toList = before.toList ++ '.' :: last.toList := by
    rw [String.toList_append, String.toList_append, List.append_assoc]
    rfl
  obtain ⟨front, hfront⟩ := exists_parts_join root
  have hparts := hfront _ hname
  rw [htext] at hparts
  rw [withExtension_of_parts hparts (by simpa using hbefore) hextension (by simpa using hne), ← htext,
    ← hfront _ hother, ofParts, parts, Text.intercalate_fields, String.ofList_toList]

end

end Path

namespace Store

variable {store : Store} {root : Path} {name : String}

theorem eq_of_walk_dots {links : Nat} {here there : Location} {dots : List String}
    (hdots : ∀ dot ∈ dots, dot = "" ∨ dot = ".") (h : store.walk .follow links here dots = .ok there) :
    there = here := by
  induction dots with
  | nil =>
    rw [walk_nil] at h
    exact (Except.ok.inj h).symm
  | cons dot rest ih =>
    rw [walk_cons] at h
    obtain ⟨next, hpace, hnext⟩ := Except.bind_eq_ok_iff.1 h
    have hdot := hdots dot List.mem_cons_self
    rcases (pace_eq_ok_iff.1 hpace).2 with ⟨-, rfl⟩ | ⟨hup, -⟩ | ⟨hname, -⟩
    · exact ih (fun d hd => hdots d (List.mem_cons_of_mem _ hd)) hnext
    · rw [hup] at hdot
      exact absurd hdot (by simp)
    · exact absurd (hdot.imp id Or.inl) (by simpa using hname)

theorem exists?_slash (store : Store) : store.exists? "/" = true := by
  have hroot : store.node? [] = some .dir := node?_eq_some_iff.2 store.root_mem
  refine exists?_iff.2 ⟨[], Except.bind_eq_ok_iff.2 ⟨(), Path.check_eq_ok_iff.2 (by decide), ?_⟩, ?_⟩
  · exact walk_empty_step_eq_ok_iff.2 ⟨hroot, rfl⟩
  · rw [hroot]
    exact Option.some_ne_none _

/-- Where a path leads to something, so does the path above that of a file in it. -/
theorem exists?_parent?_join (hname : IsName name) (h : store.exists? root = true) {dir : Path}
    (hdir : (root.join name).parent? = some dir) : store.exists? dir = true := by
  obtain ⟨at_, hresolve, hsome⟩ := exists?_iff.1 h
  obtain ⟨_, hcheck, hwalk⟩ := Except.bind_eq_ok_iff.1 hresolve
  have hroot := (Path.check_eq_ok_iff.1 hcheck).2.2
  obtain ⟨dir', hdir', hcase⟩ := Path.parent?_join hroot hname
  rw [hdir'] at hdir
  obtain rfl := Option.some.inj hdir
  rcases hcase with ⟨rfl, -⟩ | ⟨hne, htext, hsteps, dots, hnames, hdots⟩
  · exact store.exists?_slash
  have hcheck' := Path.check_of_prefix hcheck htext hne
  obtain ⟨more, hmore⟩ := htext
  have horigin : store.origin dir' = store.origin root := by
    obtain ⟨c, rest, hcons⟩ := List.exists_cons_of_ne_nil (show dir'.toList ≠ [] by simpa using hne)
    simp only [origin, Path.IsAbsolute, ← hmore, hcons, List.cons_append, List.head?_cons]
  obtain ⟨dots', hsteps', hdots'⟩ : ∃ dots', root.steps = dir'.names ++ dots' ∧
      ∀ dot ∈ dots', dot = "" ∨ dot = "." := by
    rcases root.steps_eq with h | h <;> rw [h, hnames]
    · exact ⟨dots, rfl, fun dot hdot => .inr (hdots dot hdot)⟩
    · refine ⟨dots ++ [""], List.append_assoc _ _ _, fun dot hdot => ?_⟩
      rcases List.mem_append.1 hdot with hdot | hdot
      · exact .inr (hdots dot hdot)
      · exact .inl (List.mem_singleton.1 hdot)
  rw [hsteps', ← horigin] at hwalk
  rcases walk_append store maxLinks (store.origin dir') dir'.names with ⟨error, herror⟩ | ⟨links, there, hthere⟩
  · rw [herror] at hwalk
    cases hwalk
  · rw [hthere] at hwalk
    obtain rfl := eq_of_walk_dots hdots' hwalk
    refine exists?_iff.2 ⟨at_, Except.bind_eq_ok_iff.2 ⟨(), hcheck', ?_⟩, hsome⟩
    rw [hsteps, ← List.append_nil dir'.names, hthere, walk_nil]

/-- Where a path leads to something, so does the path above it. -/
theorem exists?_parent? {path dir : Path} (h : store.exists? path = true) (hdir : path.parent? = some dir) :
    dir = "" ∨ store.exists? dir = true := by
  obtain ⟨habsolute, rfl | rfl | ⟨htext, more, hmore⟩⟩ := Path.parent?_eq_some hdir
  · exact .inl rfl
  · exact .inr store.exists?_slash
  by_cases hne : dir = ""
  · exact .inl hne
  right
  obtain ⟨at_, hresolve, hsome⟩ := exists?_iff.1 h
  obtain ⟨_, hcheck, hwalk⟩ := Except.bind_eq_ok_iff.1 hresolve
  have horigin : store.origin dir = store.origin path := by simp only [origin, habsolute]
  rw [← horigin, ← hmore] at hwalk
  rcases walk_append store maxLinks (store.origin dir) dir.steps with ⟨error, herror⟩ | ⟨links, there, hthere⟩
  · rw [herror] at hwalk
    cases hwalk
  rw [hthere] at hwalk
  refine exists?_iff.2 ⟨there, Except.bind_eq_ok_iff.2 ⟨(), Path.check_of_prefix hcheck htext hne, ?_⟩, ?_⟩
  · rw [← List.append_nil dir.steps, hthere, walk_nil]
  · cases more with
    | nil =>
      rw [walk_nil] at hwalk
      rwa [Except.ok.inj hwalk]
    | cons name rest =>
      rw [walk_cons] at hwalk
      obtain ⟨next, hpace, -⟩ := Except.bind_eq_ok_iff.1 hwalk
      rw [(pace_eq_ok_iff.1 hpace).1]
      exact Option.some_ne_none _

theorem exists?_of_mem_ancestors {path above : Path} (h : path = "" ∨ store.exists? path = true)
    (habove : above ∈ path.ancestors) : store.exists? above = true := by
  obtain ⟨hne, hthere⟩ := Path.of_mem_ancestors
    (fun path dir hne hdir (hthere : path = "" ∨ store.exists? path = true) =>
      exists?_parent? (hthere.resolve_left hne) hdir) h habove
  exact hthere.resolve_left hne

end Store

end Files

end RunCharts
