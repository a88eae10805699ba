import PageTemplates.Files.Store
import PageTemplates.Proofs.Files.Ancestors

/-!
# Paths stay below the root

On disk a path is taken to its normal form and refused if two points are among its segments. What is left goes down from the
root only. Main statements: which paths are refused (`resolve?_eq_none_iff`), what the others look like and where they lead
(`resolve?_eq_some`, `place_under`), and that reading a path depends on the entries on its way only (`info?_congr`,
`read_congr`), which are below the root (`AgreeInside.along`).
-/

namespace PageTemplates

/-- The segment that goes up. -/
def Path.up : List Char :=
  ['.', '.']

namespace Path

/-! ## Places in the system -/

/-- The names on a path of the system, where the slash is the only separator. -/
def names (cs : List Char) : List (List Char) :=
  (Text.splitAtChar '/' cs).filter isProper

/-- Where names lead to from a place. The place is given by the names from the top of the system down to it; two points go up,
and from the top they lead to the top again. -/
def walkFrom (place : List (List Char)) : List (List Char) → List (List Char)
  | [] => place
  | name :: names => if name = up then walkFrom place.dropLast names else walkFrom (place ++ [name]) names

/-- Where an absolute path of the system leads, if there are no symbolic links. -/
def place (path : String) : List (List Char) :=
  walkFrom [] (names path.toList)

/-- The path of the system that a path from a root stands for. -/
def under (root path : String) : String :=
  root ++ "/" ++ path

theorem names_append_slash (as bs : List Char) : names (as ++ '/' :: bs) = names as ++ names bs := by
  rw [names, splitAtChar_append_mark, List.filter_append]
  rfl

theorem walkFrom_append (place xs ys : List (List Char)) : walkFrom place (xs ++ ys) = walkFrom (walkFrom place xs) ys := by
  induction xs generalizing place with
  | nil => rfl
  | cons x xs ih =>
    rw [List.cons_append, walkFrom, walkFrom]
    split
    · exact ih _
    · exact ih _

/-- Names that do not go up lead down. -/
theorem walkFrom_down {place xs : List (List Char)} (h : up ∉ xs) : walkFrom place xs = place ++ xs := by
  induction xs generalizing place with
  | nil => simp [walkFrom]
  | cons x xs ih =>
    have hx : x ≠ up := fun heq => h (heq ▸ List.mem_cons_self)
    rw [walkFrom, if_neg hx, ih fun hmem => h (List.mem_cons_of_mem x hmem), List.append_assoc, List.singleton_append]

/-- The names on a normal form are the segments of the path. -/
theorem names_normalizeChars (cs : List Char) : names (normalizeChars cs) = segments cs := by
  rw [← segments_normalizeChars, segments, forward_normalizeChars, names]

end Path

namespace DiskFiles

open PageTemplates.Path

/-! ## Resolving -/

/-- A path is refused exactly if two points stand between the slashes of its normal form. -/
theorem resolve?_eq_none_iff (path : String) :
    resolve? path = none ↔ up ∈ Text.splitAtChar '/' (normalize path).toList := by
  have hcontains : (segments (normalizeChars path.toList)).contains up = true ↔
      up ∈ Text.splitAtChar '/' (normalizeChars path.toList) := by
    rw [List.contains_iff_mem, segments_normalizeChars]
    refine ⟨mem_splitAtChar_of_mem_segments, fun hpart => ?_⟩
    rcases mem_splitAtChar_normalizeChars hpart with hmem | hnil
    · exact hmem
    · cases hnil
  rw [Path.normalize, String.toList_ofList, ← hcontains]
  unfold resolve?
  simp only
  split
  · rename_i hup
    exact ⟨fun _ => hup, fun _ => rfl⟩
  · rename_i hup
    exact ⟨fun h => absurd h (Option.some_ne_none _), fun h => absurd h hup⟩

/-- A path that is not refused has its normal form, which does not start with a slash and has no segment of one or two points.
-/
theorem resolve?_eq_some {path resolved : String} (h : resolve? path = some resolved) :
    resolved = normalize path ∧ resolved.toList.head? ≠ some '/' ∧
      ∀ part ∈ Text.splitAtChar '/' resolved.toList, part ≠ ['.'] ∧ part ≠ up := by
  have hup : up ∉ Text.splitAtChar '/' (normalize path).toList := by
    rw [← resolve?_eq_none_iff, h]
    exact Option.some_ne_none resolved
  have hnormal : resolved = normalize path := by
    unfold resolve? at h
    simp only at h
    split at h
    · cases h
    · exact (Option.some.inj h).symm
  subst hnormal
  rw [Path.normalize, String.toList_ofList] at hup ⊢
  refine ⟨rfl, head?_normalizeChars path.toList, fun part hpart => ⟨?_, fun heq => hup (heq ▸ hpart)⟩⟩
  rcases mem_splitAtChar_normalizeChars hpart with hmem | hnil
  · exact (isSegment_of_mem_segments hmem).ne_point
  · rw [hnil]
    exact (List.cons_ne_nil '.' []).symm

/-- The segments of a path that is not refused. -/
theorem segments_of_resolve? {path resolved : String} (h : resolve? path = some resolved) :
    segments resolved.toList = segments path.toList ∧ ∀ s ∈ segments path.toList, IsSegment s ∧ s ≠ up := by
  obtain ⟨rfl, -, hparts⟩ := resolve?_eq_some h
  rw [Path.normalize, String.toList_ofList] at hparts ⊢
  exact ⟨segments_normalizeChars path.toList,
    fun s hs => ⟨isSegment_of_mem_segments hs, (hparts s (mem_splitAtChar_of_mem_segments hs)).2⟩⟩

/-- **Below the root.** A path that is not refused leads from the root down its segments, wherever the root is. -/
theorem place_under {path resolved : String} (h : resolve? path = some resolved) (root : String) :
    place (under root resolved) = place root ++ segments path.toList := by
  obtain ⟨-, hdown⟩ := segments_of_resolve? h
  obtain ⟨rfl, -⟩ := resolve?_eq_some h
  have hnames : names (under root (normalize path)).toList = names root.toList ++ segments path.toList := by
    have hlist : (under root (normalize path)).toList = root.toList ++ '/' :: normalizeChars path.toList := by
      simp [under, Path.normalize]
    rw [hlist, names_append_slash, names_normalizeChars]
  have hup : up ∉ segments path.toList := fun hmem => (hdown up hmem).2 rfl
  rw [place, hnames, walkFrom_append, walkFrom_down hup]
  rfl

/-! ## Reading -/

/-- Two trees with the same entries on the way that a path goes down. -/
structure AgreeAlong (d d' : DiskFiles) (path : String) : Prop where
  rootBytes : d'.rootBytes = d.rootBytes
  entry : ∀ level, d'.entry? (directoryAt path level) = d.entry? (directoryAt path level)

section

variable {d d' : DiskFiles}

theorem join_joined {parts : List (List Char)} (h : ∀ s ∈ parts, IsSegment s) (s : List Char) :
    join (String.ofList (joined parts)) (String.ofList s) = String.ofList (joined (parts ++ [s])) := by
  have htrim : trimEndOf '/' (joined parts) = joined parts := trimEndOf_of_getLast (getLast?_joined h)
  unfold join
  simp only [String.toList_ofList, htrim]
  by_cases hparts : parts = []
  · subst hparts
    simp [joined, List.intercalate]
  · rw [if_neg (by simpa using joined_ne_nil h hparts), joined_concat hparts]
    apply String.toList_inj.1
    simp

/-- Following names looks at the entries on the way only. -/
theorem follow_congr {before after : List (List Char)} (hparts : ∀ s ∈ before ++ after, IsSegment s)
    (hentry : ∀ level, d'.entry? (String.ofList (joined ((before ++ after).take level))) =
      d.entry? (String.ofList (joined ((before ++ after).take level)))) :
    d'.follow (String.ofList (joined before)) after = d.follow (String.ofList (joined before)) after := by
  induction after generalizing before with
  | nil => rfl
  | cons name rest ih =>
    have hjoin := join_joined (fun s hs => hparts s (List.mem_append_left _ hs)) name
    have happend : before ++ name :: rest = (before ++ [name]) ++ rest := by simp
    have hnext : d'.entry? (String.ofList (joined (before ++ [name]))) = d.entry? (String.ofList (joined (before ++ [name]))) := by
      have hlevel := hentry (before ++ [name]).length
      rwa [happend, List.take_left' rfl] at hlevel
    rw [happend] at hparts hentry
    have hrest := ih hparts hentry
    rw [follow, follow, hjoin]
    simp only [hnext]
    split
    · rfl
    · cases d.entry? (String.ofList (joined (before ++ [name]))) with
      | none => rfl
      | some entry =>
        cases entry with
        | file file => cases rest <;> rfl
        | directory => exact hrest

theorem open?_congr {path resolved : String} (h : AgreeAlong d d' path) (hresolve : resolve? path = some resolved) :
    d'.open? resolved = d.open? resolved := by
  have hsegments := (segments_of_resolve? hresolve).1
  have hfollow : d'.follow "" (segments resolved.toList) = d.follow "" (segments resolved.toList) := by
    rw [hsegments]
    exact @follow_congr d d' [] _ (fun s hs => isSegment_of_mem_segments hs) h.entry
  unfold open?
  rw [h.rootBytes, hfollow]

/-- What is known of a file depends on the entries on the way to it, if its path is not refused. -/
theorem info?_congr {path : String} (h : resolve? path ≠ none → AgreeAlong d d' path) : d'.info? path = d.info? path := by
  unfold info?
  cases hresolve : resolve? path with
  | none => rfl
  | some resolved => simp only [open?_congr (h (by simp [hresolve])) hresolve]

/-- What a file reads as depends on the entries on the way to it, if its path is not refused. -/
theorem read_congr {path : String} (h : resolve? path ≠ none → AgreeAlong d d' path) : d'.read path = d.read path := by
  unfold read
  cases hresolve : resolve? path with
  | none => rfl
  | some resolved => simp only [open?_congr (h (by simp [hresolve])) hresolve]

/-! ## Outside the root -/

/-- A path from the root that goes down. Every other path from the root leads outside. -/
def Inside (path : String) : Prop :=
  ∃ parts, path = String.ofList (joined parts) ∧ ∀ s ∈ parts, IsSegment s ∧ s ≠ up

/-- Two trees that are the same below the root, whatever is outside. -/
structure AgreeInside (d d' : DiskFiles) : Prop where
  rootBytes : d'.rootBytes = d.rootBytes
  entry : ∀ path, Inside path → d'.entry? path = d.entry? path

/-- The way to a path that is not refused is below the root. -/
theorem AgreeInside.along (h : AgreeInside d d') {path : String} (hresolve : resolve? path ≠ none) : AgreeAlong d d' path := by
  obtain ⟨resolved, hresolved⟩ := Option.ne_none_iff_exists'.1 hresolve
  refine ⟨h.rootBytes, fun level => h.entry _ ⟨_, rfl, fun s hs => ?_⟩⟩
  exact (segments_of_resolve? hresolved).2 s (List.mem_of_mem_take hs)

/-- A path that goes up is outside. -/
theorem not_inside {path : String} (h : up ∈ segments path.toList) : ¬Inside path := by
  rintro ⟨parts, rfl, hparts⟩
  rw [String.toList_ofList, segments_joined fun s hs => (hparts s hs).1] at h
  exact (hparts up h).2 rfl

/-- A file outside makes no difference below the root. -/
theorem agreeInside_insert (d : DiskFiles) {path : String} (h : up ∈ segments path.toList) (file : StoredFile) :
    AgreeInside d { d with files := Table.insert d.files path file } := by
  refine ⟨rfl, fun other hother => ?_⟩
  have hne : other ≠ path := by
    rintro rfl
    exact not_inside h hother
  unfold entry?
  rw [Table.get?_insert, if_neg hne]

end

end DiskFiles

end PageTemplates
