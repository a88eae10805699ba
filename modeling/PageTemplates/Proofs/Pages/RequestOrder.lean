import PageTemplates.Proofs.Pages.Registry

/-!
# Pages and the requests before them

A page is registered under its path without the extension, so the request that registers it settles the format for all others
with the same key. Main statement: whatever requests a site has had, a path is answered as the first of them that registered its
page would be on a new site; so the requests before it make no difference exactly when all paths of its page have the same
answer (`getPage_after_requests`).
-/

namespace PageTemplates

/-- A request for a path, at a reading of the clock. -/
structure PageRequest where
  clock : Int := 0
  path : String

namespace PageRules

open Load

/-! ## Requests -/

/-- The outcome of a request, and the site after it. -/
def serve (rules : PageRules) (e : Engine) (r : PageRequest) : Except TemplateError (Option PageId) × Engine :=
  runOn (rules.getPage r.path) { e with clock := r.clock }

/-- The answer to a request: the path of the file behind the page, or none if there is no page. -/
def answer (rules : PageRules) (e : Engine) (r : PageRequest) : Except TemplateError (Option String) :=
  (rules.serve e r).1.map fun id => id.bind fun id => ((rules.serve e r).2.page? id).map (·.path)

/-- A site after some requests. Whatever comes of a request, the next one follows. -/
def after (rules : PageRules) (e : Engine) (requests : List PageRequest) : Engine :=
  requests.foldl (fun e r => (rules.serve e r).2) e

/-- Whether asking for a path registers the page of another one, or finds it registered. -/
def registers (rules : PageRules) (e : Engine) (path other : String) : Bool :=
  rules.pathId other = rules.pathId path && (rules.formatOf? e other).toOption.join.isSome

/-- The path that settles the format of a page: that of the first request that registers the page, else the path itself. -/
def leader (rules : PageRules) (e : Engine) (requests : List PageRequest) (path : String) : String :=
  ((requests.map (·.path)).find? (rules.registers e path)).getD path

/-- A file is what a path should be answered with: the one with the extension that the path names, if it exists, and otherwise
the first that exists in the order of the formats. -/
def IsChoice (rules : PageRules) (files : FileStore) (path : String) (f : PageFormat) : Prop :=
  (∃ info, files.info? (fileName (rules.pathId path).key f) = .ok (some info)) ∧
    (rules.namedFormat? path = some f ∨
      (∀ g, rules.namedFormat? path = some g → files.info? (fileName (rules.pathId path).key g) = .ok none) ∧
        ∃ before after, rules.formats = before ++ f :: after ∧
          ∀ g ∈ before, files.info? (fileName (rules.pathId path).key g) = .ok none)

/-- The format that the files give a path is the one that the path should be answered with. -/
theorem fileFormat?_eq_some_iff {rules : PageRules} {files : FileStore} {path : String} {f : PageFormat} :
    rules.fileFormat? files path = .ok (some f) ↔ rules.IsChoice files path f := by
  unfold IsChoice
  rw [fileFormat?_eq]
  cases hn : rules.namedFormat? path with
  | none => simp [probe?_eq_some_iff]
  | some g =>
    simp only [Option.some.injEq, forall_eq']
    cases hi : files.info? (fileName (rules.pathId path).key g) with
    | error e =>
      refine ⟨fun h => by simp at h, ?_⟩
      rintro ⟨⟨info, hf⟩, rfl | ⟨hnone, -⟩⟩
      · rw [hi] at hf
        simp at hf
      · simp at hnone
    | ok info =>
      cases info with
      | some info =>
        refine ⟨?_, ?_⟩
        · intro h
          obtain rfl : g = f := by simpa using h
          exact ⟨⟨info, hi⟩, Or.inl rfl⟩
        · rintro ⟨-, rfl | ⟨hnone, -⟩⟩
          · rfl
          · simp at hnone
      | none =>
        simp only [true_and, probe?_eq_some_iff]
        refine and_congr_right fun ⟨info, hf⟩ => ⟨Or.inr, ?_⟩
        rintro (rfl | h)
        · rw [hi] at hf
          simp at hf
        · exact h

/-! ## Runs of requests -/

/-- A request leaves a site that can be asked again, over the same files. -/
theorem serve_opened {rules : PageRules} {e : Engine} (h : rules.Ready e) (r : PageRequest) :
    (rules.serve e r).1 = rules.pageAnswer e.files (rules.pathId r.path) (rules.formatOf? e r.path) ∧
      rules.Opened r.path { e with clock := r.clock } (rules.serve e r).2 := by
  obtain ⟨e', hrun, hopened⟩ := answers_getPage (h.withClock r.clock) r.path
  have hserve : rules.serve e r = _ := hrun
  rw [hserve]
  exact ⟨rfl, hopened⟩

/-- A request is answered with the file of the format that its path has, if that can be loaded. -/
theorem answer_eq {rules : PageRules} {e : Engine} (h : rules.Ready e) (r : PageRequest) :
    rules.answer e r =
      match rules.formatOf? e r.path with
      | .error error => .error (.file error)
      | .ok none => .ok none
      | .ok (some f) =>
        (rules.initAnswer e.files (rules.pathId r.path) f).map fun _ => some (fileName (rules.pathId r.path).key f) := by
  obtain ⟨hserve, hopened⟩ := serve_opened h r
  unfold answer
  rw [hserve]
  cases hf : rules.formatOf? e r.path with
  | error error => rfl
  | ok found =>
    cases found with
    | none => rfl
    | some f =>
      obtain ⟨p, hp, rfl⟩ := hopened.format f hf
      have hpath := (hopened.ready.consistent _ p hp).path
      have hpage : (rules.serve e r).2.page? (rules.pathId r.path) = some p := (page?_eq (by simp [pathId])).trans hp
      simp only [pageAnswer]
      cases rules.initAnswer e.files (rules.pathId r.path) p.format with
      | error error => rfl
      | ok content => simp only [Except.map, Option.bind_some, hpage, Option.map_some, hpath]

theorem registers_eq_true_iff {rules : PageRules} {e : Engine} {path other : String} :
    rules.registers e path other = true ↔
      rules.pathId other = rules.pathId path ∧ ∃ f, rules.formatOf? e other = .ok (some f) := by
  unfold registers
  rw [Bool.and_eq_true, decide_eq_true_eq]
  refine and_congr_right fun _ => ?_
  cases rules.formatOf? e other with
  | error error => simp [Except.toOption]
  | ok found => cases found <;> simp [Except.toOption]

/-- A page that is registered has its format whatever path it is asked for by. -/
theorem formatOf?_eq_of_get? {rules : PageRules} {e : Engine} {path : String} {p : Page}
    (h : Table.get? e.pages (rules.pathId path) = some p) : rules.formatOf? e path = .ok (some p.format) := by
  simp only [formatOf?, h]

/-- After a request, a path has the format that the request settled if that was for the same page, and otherwise the one that it
had. -/
theorem formatOf?_serve {rules : PageRules} {e : Engine} (h : rules.Ready e) (r : PageRequest) (path : String) :
    rules.formatOf? (rules.serve e r).2 path =
      rules.formatOf? e (if rules.registers e path r.path then r.path else path) := by
  obtain ⟨-, hopened⟩ := serve_opened h r
  generalize (rules.serve e r).2 = e' at hopened
  by_cases hreg : rules.registers e path r.path = true
  · obtain ⟨hid, f, hf⟩ := registers_eq_true_iff.1 hreg
    obtain ⟨p, hp, rfl⟩ := hopened.format f hf
    rw [if_pos hreg, hf]
    exact formatOf?_eq_of_get? (hid ▸ hp)
  · rw [if_neg hreg]
    cases hp : Table.get? e.pages (rules.pathId path) with
    | some p =>
      obtain ⟨p', hp', hf⟩ := hopened.kept _ p hp
      rw [formatOf?_eq_of_get? hp, formatOf?_eq_of_get? hp', hf]
    | none =>
      by_cases hid : rules.pathId path = rules.pathId r.path
      · have hsame := hopened.missing fun f hf => hreg (registers_eq_true_iff.2 ⟨hid.symm, f, hf⟩)
        rw [hsame]
        rfl
      · have hp' := hopened.others (rules.pathId path).key hid hp
        have hfiles : e'.files = e.files := hopened.files
        change Table.get? e'.pages (rules.pathId path) = none at hp'
        simp only [formatOf?, hp, hp', hfiles]

theorem registers_congr {rules : PageRules} {e : Engine} {path path' : String} (h : rules.pathId path = rules.pathId path')
    (other : String) : rules.registers e path other = rules.registers e path' other := by
  simp only [registers, h]

/-- A request that does not register a page leaves open which paths would register it. -/
theorem registers_serve {rules : PageRules} {e : Engine} (h : rules.Ready e) {r : PageRequest} {path : String}
    (hr : rules.registers e path r.path = false) (other : String) :
    rules.registers (rules.serve e r).2 path other = rules.registers e path other := by
  by_cases hid : rules.pathId other = rules.pathId path
  · have hother : rules.registers e other r.path = false := (registers_congr hid r.path).trans hr
    have hformat := formatOf?_serve h r other
    rw [hother] at hformat
    unfold registers
    rw [hformat]
    rfl
  · simp [registers, hid]

theorem pathId_leader (rules : PageRules) (e : Engine) (requests : List PageRequest) (path : String) :
    rules.pathId (rules.leader e requests path) = rules.pathId path := by
  unfold leader
  cases hfind : (requests.map (·.path)).find? (rules.registers e path) with
  | none => rfl
  | some q => exact (registers_eq_true_iff.1 (List.find?_some hfind)).1

theorem leader_cons (rules : PageRules) (e : Engine) (r : PageRequest) (requests : List PageRequest) (path : String) :
    rules.leader e (r :: requests) path =
      if rules.registers e path r.path then r.path else rules.leader e requests path := by
  unfold leader
  rw [List.map_cons, List.find?_cons]
  cases rules.registers e path r.path <;> rfl

/-- Among the requests of a run, the first that registers the page of a path settles the format of the path. -/
theorem formatOf?_after {rules : PageRules} {e : Engine} (h : rules.Ready e) (requests : List PageRequest) (path : String) :
    rules.Ready (rules.after e requests) ∧ (rules.after e requests).files = e.files ∧
      rules.formatOf? (rules.after e requests) path = rules.formatOf? e (rules.leader e requests path) := by
  induction requests generalizing e with
  | nil => exact ⟨h, rfl, rfl⟩
  | cons r requests ih =>
    obtain ⟨-, hopened⟩ := serve_opened h r
    have hfiles : (rules.serve e r).2.files = e.files := hopened.files
    obtain ⟨hready, hafter, hformat⟩ := ih hopened.ready
    refine ⟨hready, hafter.trans hfiles, ?_⟩
    change rules.formatOf? (rules.after (rules.serve e r).2 requests) path = _
    have hcongr := registers_congr (e := e) (pathId_leader rules (rules.serve e r).2 requests path) r.path
    rw [hformat, formatOf?_serve h, leader_cons, hcongr]
    cases hr : rules.registers e path r.path with
    | true => rfl
    | false =>
      have hleader : rules.leader (rules.serve e r).2 requests path = rules.leader e requests path := by
        unfold leader
        rw [funext (registers_serve h hr)]
      rw [hleader]

/-! ## Requests on a new site -/

theorem formatOf?_over (rules : PageRules) (files : FileStore) (path : String) :
    rules.formatOf? (Engine.over files) path = rules.fileFormat? files path := rfl

/-- After any requests, a path is answered as its leader is on the site before them. -/
theorem answer_after {rules : PageRules} {e : Engine} (h : rules.Ready e) (requests : List PageRequest) (clock clock' : Int)
    (path : String) :
    rules.answer (rules.after e requests) { clock, path } =
      rules.answer e { clock := clock', path := rules.leader e requests path } := by
  obtain ⟨hready, hfiles, hformat⟩ := formatOf?_after h requests path
  rw [answer_eq hready, answer_eq h]
  simp only [hformat, hfiles, pathId_leader]

/-- On a new site a path is answered with none exactly when no format has a file for it. -/
theorem answer_over_eq_none_iff {rules : PageRules} {files : FileStore} {r : PageRequest} :
    rules.answer (Engine.over files) r = .ok none ↔
      ∀ f ∈ rules.formats, files.info? (fileName (rules.pathId r.path).key f) = .ok none := by
  rw [answer_eq (ready_over rules files), formatOf?_over, ← fileFormat?_eq_none_iff]
  cases rules.fileFormat? files r.path with
  | error error => simp
  | ok found =>
    cases found with
    | none => simp
    | some f =>
      cases hi : rules.initAnswer (Engine.over files).files (rules.pathId r.path) f with
      | error error => simp [hi, Except.map]
      | ok content => simp [hi, Except.map]

/-- On a new site a path is answered with the file that it should be answered with, if that can be loaded. -/
theorem answer_over_of_isChoice {rules : PageRules} {files : FileStore} {r : PageRequest} {f : PageFormat}
    (h : rules.IsChoice files r.path f) :
    rules.answer (Engine.over files) r =
      (rules.initAnswer files (rules.pathId r.path) f).map fun _ => some (fileName (rules.pathId r.path).key f) := by
  rw [answer_eq (ready_over rules files), formatOf?_over, fileFormat?_eq_some_iff.2 h]
  rfl

/-- On a new site every path that is answered with a file is answered with the one that it should be. -/
theorem isChoice_of_answer_over {rules : PageRules} {files : FileStore} {r : PageRequest} {file : String}
    (h : rules.answer (Engine.over files) r = .ok (some file)) :
    ∃ f, rules.IsChoice files r.path f ∧ file = fileName (rules.pathId r.path).key f := by
  rw [answer_eq (ready_over rules files), formatOf?_over] at h
  cases hf : rules.fileFormat? files r.path with
  | error error => simp [hf] at h
  | ok found =>
    cases found with
    | none => simp [hf] at h
    | some f =>
      refine ⟨f, fileFormat?_eq_some_iff.1 hf, ?_⟩
      simp only [hf] at h
      cases hi : rules.initAnswer (Engine.over files).files (rules.pathId r.path) f with
      | error error => simp [hi, Except.map] at h
      | ok content =>
        rw [hi] at h
        exact (Option.some.inj (Except.ok.inj h)).symm

/-- Requests make no difference to the answer for a path exactly when no path of the same page has another answer. -/
theorem answer_after_eq_iff (rules : PageRules) (files : FileStore) (path : String) :
    (∀ requests clock clock', rules.answer (rules.after (Engine.over files) requests) { clock, path } =
        rules.answer (Engine.over files) { clock := clock', path }) ↔
      ∀ other, rules.registers (Engine.over files) path other = true →
        rules.answer (Engine.over files) { path := other } = rules.answer (Engine.over files) { path } := by
  have h := ready_over rules files
  constructor
  · intro hall other hother
    have hleader : rules.leader (Engine.over files) [{ path := other }] path = other := by
      rw [leader_cons, if_pos hother]
    rw [← hall [{ path := other }] 0 0, answer_after h _ 0 0, hleader]
  · intro hall requests clock clock'
    have hclock : ∀ q, rules.answer (Engine.over files) { clock := clock', path := q } =
        rules.answer (Engine.over files) { path := q } := fun q => by simp only [answer_eq h]
    rw [answer_after h requests clock clock', hclock, hclock]
    unfold leader
    cases hfind : (requests.map (·.path)).find? (rules.registers (Engine.over files) path) with
    | none => rfl
    | some q => exact hall q (List.find?_some hfind)

/-- **Request order.** Whatever requests a site over some files has had, a path is answered as the first of them that registered
its page, or else the path itself, is answered on a new site. So the requests before it make no difference exactly when all
paths that register its page have the same answer. On a new site a path is answered with the file that it names if that exists,
and otherwise with the first that exists in the order of the formats, unless that cannot be loaded; and with none exactly when
none exists. -/
theorem getPage_after_requests (rules : PageRules) (files : FileStore) (path : String) :
    (∀ requests clock clock', rules.answer (rules.after (Engine.over files) requests) { clock, path } =
        rules.answer (Engine.over files) { clock := clock', path := rules.leader (Engine.over files) requests path }) ∧
    ((∀ requests clock clock', rules.answer (rules.after (Engine.over files) requests) { clock, path } =
        rules.answer (Engine.over files) { clock := clock', path }) ↔
      ∀ other, rules.registers (Engine.over files) path other = true →
        rules.answer (Engine.over files) { path := other } = rules.answer (Engine.over files) { path }) ∧
    (∀ requests clock, rules.answer (rules.after (Engine.over files) requests) { clock, path } = .ok none ↔
      ∀ f ∈ rules.formats, files.info? (fileName (rules.pathId path).key f) = .ok none) ∧
    (∀ clock f, rules.IsChoice files path f → rules.answer (Engine.over files) { clock, path } =
      (rules.initAnswer files (rules.pathId path) f).map fun _ => some (fileName (rules.pathId path).key f)) ∧
    ∀ clock file, rules.answer (Engine.over files) { clock, path } = .ok (some file) →
      ∃ f, rules.IsChoice files path f ∧ file = fileName (rules.pathId path).key f := by
  have h := ready_over rules files
  refine ⟨fun requests clock clock' => answer_after h requests clock clock' path, answer_after_eq_iff rules files path, ?_,
    fun clock f hf => answer_over_of_isChoice (r := { clock, path }) hf,
    fun clock file hfile => isChoice_of_answer_over (r := { clock, path }) hfile⟩
  intro requests clock
  rw [answer_after h requests clock clock, answer_over_eq_none_iff]
  simp only [pathId_leader]

theorem eq_ok_of_toOption {ε α : Type} {x : Except ε α} {a : α} (h : x.toOption = some a) : x = .ok a := by
  cases x with
  | error error => simp [Except.toOption] at h
  | ok b => rw [Option.some.inj h]

/-- The site with a page in both formats. -/
def bothFiles : FileStore :=
  .memory { files := [("both.html", { bytes := Utf8.encode "html", stamp := 0 }),
    ("both.md", { bytes := Utf8.encode "md", stamp := 0 })] }

/-- The rules with the two usual formats. -/
def usualRules : PageRules :=
  { settings := {}, formats := [.html, .markdown] }

/-- A request does make a difference: asked for `both.md`, a new site answers with that file, and a site that was asked for
`both` before answers with the other one. -/
theorem getPage_request_order_fails :
    usualRules.answer (Engine.over bothFiles) { path := "both.md" } = .ok (some "both.md") ∧
      usualRules.answer (usualRules.after (Engine.over bothFiles) [{ path := "both" }]) { path := "both.md" } =
        .ok (some "both.html") :=
  ⟨eq_ok_of_toOption (by decide +kernel), eq_ok_of_toOption (by decide +kernel)⟩

end PageRules

end PageTemplates
