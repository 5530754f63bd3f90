import ElementBindings.Proofs.Bundle.Output
import Mathlib.Data.List.Basic
import Mathlib.Data.List.Induction

/-!
# Proofs/Bundle/Session — what a build keeps over a whole session

A session is a row of requests to one build, with changes of its files in between.  It records a
moment for each of them: what was asked, the files there were, and the reply.  The context of the
build can be read off the record (`Session.Faithful`): every request does one of three things to
the context (`next_cases`), and each keeps the two in step, so they are in step behind every row of
requests (`context_law`).
-/

namespace ElementBindings

/-! ## Records -/

/-- **Whether something has happened and something else has held ever since**, in a record whose
last entry is the latest. -/
def Since {α : Type} (happened holds : α → Prop) (record : List α) : Prop :=
  ∃ earlier x later, record = earlier ++ x :: later ∧ happened x ∧ ∀ y ∈ later, holds y

section Since

variable {α : Type} {happened holds : α → Prop}

theorem not_since_nil : ¬Since happened holds [] := by
  rintro ⟨earlier, x, later, h, -⟩
  exact absurd h (by simp)

/-- The latest entry is what has happened, or it goes on with what has held. -/
theorem since_concat_iff {record : List α} {x : α} :
    Since happened holds (record ++ [x])
      ↔ happened x ∨ holds x ∧ Since happened holds record := by
  constructor
  · rintro ⟨earlier, y, later, heq, hy, hlater⟩
    rcases List.eq_nil_or_concat' later with rfl | ⟨init, z, rfl⟩
    · obtain ⟨-, hx⟩ := List.append_inj' heq rfl
      obtain rfl := (List.cons.inj hx).1
      exact Or.inl hy
    · rw [← List.cons_append, ← List.append_assoc] at heq
      obtain ⟨hrecord, hx⟩ := List.append_inj' heq rfl
      obtain rfl := (List.cons.inj hx).1
      exact Or.inr ⟨hlater x (by simp), earlier, y, init, hrecord, hy,
        fun z hz => hlater z (List.mem_append_left _ hz)⟩
  · rintro (hx | ⟨hx, earlier, y, later, rfl, hy, hlater⟩)
    · exact ⟨record, x, [], rfl, hx, by simp⟩
    · refine ⟨earlier, y, later ++ [x], by simp, hy, fun z hz => ?_⟩
      rcases List.mem_append.1 hz with hz | hz
      · exact hlater z hz
      · obtain rfl := List.mem_singleton.1 hz
        exact hx

end Since

/-! ## Sessions -/

/-- What is asked of a build, or what becomes of its files meanwhile. -/
inductive Request where
  | load (id : String)
  | close
  | transform (strip : String → String → Except String Config.Transformed) (source id : String)
  | resolve (id : String)
  | manifest
  /-- nothing is asked: the files have become others -/
  | edit (files : FileTree)

/-- What a request is answered. -/
inductive Reply where
  | load (result : Except BuildError (Option String))
  | close (result : Except BuildError (Option Path))
  | transform (result : Except BuildError (Option Config.Transformed)) (watched : List Path)
  | resolve (id : Option String)
  | manifest (result : Except BuildError Manifest)
  | nothing

/-- A request with the files it met and the reply to it. -/
structure Moment where
  request : Request
  files : FileTree
  reply : Reply

/-- What a build has come to, with the record of how. -/
structure Session where
  context : BuildContext
  files : FileTree
  record : List Moment

/-- The session of a build that has been asked nothing. -/
def Session.start (files : FileTree) : Session := ⟨.empty, files, []⟩

namespace Config

/-- The reply to a request, with the context and the files behind it. -/
def answer (c : Config) (s : Session) : Request → Reply × BuildContext × FileTree
  | .load id =>
    let (result, context) := c.load s.files id s.context
    (.load result, context, s.files)
  | .close =>
    let (result, context, files) := c.close s.files s.context
    (.close result, context, files)
  | .transform strip source id =>
    let (result, watched) := c.transform strip source id
    (.transform result watched, s.context, s.files)
  | .resolve id => (.resolve (c.resolveId? id), s.context, s.files)
  | .manifest => (.manifest (c.manifest s.files), s.context, s.files)
  | .edit files => (.nothing, s.context, files)

/-- The moment of a request. -/
def moment (c : Config) (s : Session) (r : Request) : Moment := ⟨r, s.files, (c.answer s r).1⟩

/-- A session with one more request. -/
def next (c : Config) (s : Session) (r : Request) : Session :=
  ⟨(c.answer s r).2.1, (c.answer s r).2.2, s.record ++ [c.moment s r]⟩

/-- **The session of a row of requests**, from an empty context on. -/
def run (c : Config) (files : FileTree) (rs : List Request) : Session :=
  rs.foldl c.next (.start files)

theorem run_concat (c : Config) (files : FileTree) (rs : List Request) (r : Request) :
    c.run files (rs ++ [r]) = c.next (c.run files rs) r := by
  rw [run, List.foldl_concat, ← run]

/-- The record has a moment for every request. -/
theorem map_request_record_run (c : Config) (files : FileTree) (rs : List Request) :
    (c.run files rs).record.map (·.request) = rs := by
  induction rs using List.reverseRecOn with
  | nil => rfl
  | append_singleton rs r ih =>
    rw [run_concat, next, List.map_append, ih]
    rfl

end Config

/-! ## What a moment is to the context -/

namespace Moment

/-- Whether a moment is a load of the virtual module that succeeded. -/
def IsLoaded (x : Moment) : Prop :=
  x.request = .load resolvedVirtualModuleId ∧ ∃ text, x.reply = .load (.ok (some text))

/-- Whether a moment closes the bundle, with or without success. -/
def IsClose (x : Moment) : Prop := x.request = .close

/-- **Whether a moment is a load that gave a module** — its wrappers are those of the elements in
the files of that moment, and its text is both the reply and what the wrappers generate. -/
structure Generates (c : Config) (x : Moment) (m : GeneratedModule) : Prop where
  request : x.request = .load resolvedVirtualModuleId
  wrappers : ∃ manifest, c.manifest x.files = .ok manifest ∧
    c.wrapRules.wrappers manifest = .ok m.wrappers
  reply : x.reply = .load (.ok (some m.text))
  text : m.text = wrapperModule m.wrappers

variable {c : Config} {x : Moment} {m m' : GeneratedModule}

theorem Generates.isLoaded (h : x.Generates c m) : x.IsLoaded := ⟨h.request, m.text, h.reply⟩

theorem IsLoaded.not_isClose (h : x.IsLoaded) : ¬x.IsClose := fun hc =>
  absurd (h.1.symm.trans hc) (by simp)

/-- A moment gives one module at most. -/
theorem Generates.unique (h : x.Generates c m) (h' : x.Generates c m') : m = m' := by
  obtain ⟨manifest, hmanifest, hws⟩ := h.wrappers
  obtain ⟨manifest', hmanifest', hws'⟩ := h'.wrappers
  obtain rfl := Except.ok.inj (hmanifest.symm.trans hmanifest')
  have hwrappers : m.wrappers = m'.wrappers := Except.ok.inj (hws.symm.trans hws')
  have htext : m.text = m'.text := by rw [h.text, h'.text, hwrappers]
  cases m
  cases m'
  exact congrArg₂ GeneratedModule.mk hwrappers htext

end Moment

namespace Config

variable {c : Config}

/-- Generation succeeds with the wrappers of the elements and the text they generate. -/
theorem generate_eq_ok_iff {t : FileTree} {m : GeneratedModule} :
    c.generate t = .ok m ↔ ∃ manifest, c.manifest t = .ok manifest ∧
      c.wrapRules.wrappers manifest = .ok m.wrappers ∧ m.text = wrapperModule m.wrappers := by
  rw [generate, Except.bind_eq_ok]
  refine exists_congr fun manifest => and_congr_right fun _ => ?_
  rw [Except.bind_eq_ok]
  constructor
  · rintro ⟨ws, hws, hm⟩
    obtain rfl := Except.ok.inj hm
    exact ⟨Except.mapError_eq_ok.1 hws, rfl⟩
  · rintro ⟨hws, htext⟩
    exact ⟨m.wrappers, Except.mapError_eq_ok.2 hws, by rw [← htext]; rfl⟩

/-- Why a load fails: the scan does, an element is faulty, or an element cannot be wrapped. -/
inductive Unloadable (c : Config) (t : FileTree) : BuildError → Prop where
  | scan {e : ScanError} (hscan : c.glob.scan t c.root = .error e) : Unloadable c t (.scan e)
  | manifest {paths : List Path} {e : ManifestError} (hscan : c.glob.scan t c.root = .ok paths)
      (hmanifest : Manifest.ofFiles t paths = .error e) : Unloadable c t (.manifest e)
  | wrap {manifest : Manifest} {e : WrapError} (hmanifest : c.manifest t = .ok manifest)
      (hwrap : c.wrapRules.wrappers manifest = .error e) : Unloadable c t (.wrap e)

/-- Generation fails at one of its three stages. -/
theorem generate_eq_error_iff {t : FileTree} {e : BuildError} :
    c.generate t = .error e ↔ c.Unloadable t e := by
  constructor
  · intro h
    rw [generate, Except.bind_eq_error] at h
    rcases h with h | ⟨manifest, hmanifest, h⟩
    · rw [manifest, Except.bind_eq_error] at h
      rcases h with h | ⟨paths, hscan, h⟩
      · obtain ⟨e, hscan, rfl⟩ := Except.mapError_eq_error.1 h
        exact .scan hscan
      · obtain ⟨e, hmanifest, rfl⟩ := Except.mapError_eq_error.1 h
        exact .manifest (Except.mapError_eq_ok.1 hscan) hmanifest
    · rw [Except.bind_eq_error] at h
      rcases h with h | ⟨ws, -, h⟩
      · obtain ⟨e, hwrap, rfl⟩ := Except.mapError_eq_error.1 h
        exact .wrap hmanifest hwrap
      · exact absurd h (by simp [pure, Except.pure])
  · intro h
    cases h with
    | scan hscan =>
      refine Except.bind_eq_error.2 (Or.inl (Except.bind_eq_error.2 (Or.inl ?_)))
      exact Except.mapError_eq_error.2 ⟨_, hscan, rfl⟩
    | @manifest paths e hscan hmanifest =>
      refine Except.bind_eq_error.2 (Or.inl (Except.bind_eq_error.2 (Or.inr ⟨paths, ?_, ?_⟩)))
      · exact Except.mapError_eq_ok.2 hscan
      · exact Except.mapError_eq_error.2 ⟨e, hmanifest, rfl⟩
    | wrap hmanifest hwrap =>
      refine Except.bind_eq_error.2 (Or.inr ⟨_, hmanifest, Except.bind_eq_error.2 (Or.inl ?_)⟩)
      exact Except.mapError_eq_error.2 ⟨_, hwrap, rfl⟩

/-! ## One request -/

/-- **A load that generates a module keeps it.** -/
theorem load_of_generate (c : Config) {s : Session} {m : GeneratedModule}
    (h : c.generate s.files = .ok m) :
    (c.moment s (.load resolvedVirtualModuleId)).Generates c m ∧
      (c.next s (.load resolvedVirtualModuleId)).context = ⟨some m⟩ := by
  have hload : c.load s.files resolvedVirtualModuleId s.context
      = (.ok (some m.text), s.context.store m) := by
    rw [load, if_pos rfl, h]
  obtain ⟨manifest, hmanifest, hws, htext⟩ := generate_eq_ok_iff.1 h
  refine ⟨⟨rfl, ⟨manifest, hmanifest, hws⟩, ?_, htext⟩, ?_⟩
  · rw [moment, answer, hload]
  · rw [next, answer, hload]
    rfl

/-- **A load that fails changes nothing.** -/
theorem load_of_unloadable (c : Config) {s : Session} {e : BuildError}
    (h : c.Unloadable s.files e) :
    (c.moment s (.load resolvedVirtualModuleId)).reply = .load (.error e) ∧
      (c.next s (.load resolvedVirtualModuleId)).context = s.context := by
  have hload : c.load s.files resolvedVirtualModuleId s.context = (.error e, s.context) := by
    rw [load, if_pos rfl, generate_eq_error_iff.2 h]
  rw [moment, next, answer, hload]
  exact ⟨rfl, rfl⟩

/-- A load fails for the reasons there are, and no others. -/
theorem reply_load_eq_error_iff (c : Config) {s : Session} {e : BuildError} :
    (c.moment s (.load resolvedVirtualModuleId)).reply = .load (.error e)
      ↔ c.Unloadable s.files e := by
  refine ⟨fun h => ?_, fun h => (load_of_unloadable c h).1⟩
  cases hgen : c.generate s.files with
  | ok m => exact absurd ((load_of_generate c hgen).1.reply.symm.trans h) (by simp)
  | error e' =>
    have hunloadable := generate_eq_error_iff.1 hgen
    obtain rfl : e' = e := by simpa using (load_of_unloadable c hunloadable).1.symm.trans h
    exact hunloadable

/-- A load of any other module gives none and changes nothing. -/
theorem load_of_ne (c : Config) (s : Session) {id : String} (h : id ≠ resolvedVirtualModuleId) :
    (c.moment s (.load id)).reply = .load (.ok none) ∧
      (c.next s (.load id)).context = s.context := by
  have hload : c.load s.files id s.context = (.ok none, s.context) := by rw [load, if_neg h]
  rw [moment, next, answer, hload]
  exact ⟨rfl, rfl⟩

/-- Closing with nothing kept replies so. -/
theorem close_of_cached_eq_none (c : Config) {s : Session} (h : s.context.cached = none) :
    (c.moment s .close).reply = .close (.ok none) ∧ (c.next s .close).context = .empty := by
  have hclose : c.close s.files s.context = (.ok none, .empty, s.files) := by
    rw [close, BuildContext.take, h]
  rw [moment, next, answer, hclose]
  exact ⟨rfl, rfl⟩

/-- **Closing writes the declarations of what is kept**, whatever the files are by now. -/
theorem close_of_cached_eq_some (c : Config) {s : Session} {m : GeneratedModule}
    (h : s.context.cached = some m) :
    (∀ written, c.declarationTarget.write s.files m.wrappers = .ok written →
      (c.moment s .close).reply = .close (.ok (some c.declarationTarget.outputPath)) ∧
      (c.next s .close).files = written) ∧
    (∀ fault, c.declarationTarget.write s.files m.wrappers = .error fault →
      (c.moment s .close).reply
        = .close (.error (.unwritable c.declarationTarget.outputPath fault))) ∧
    (c.next s .close).context = .empty := by
  have htake : s.context.take = (some m, .empty) := by rw [BuildContext.take, h]
  cases hwrite : c.declarationTarget.write s.files m.wrappers with
  | ok written =>
    have hclose : c.close s.files s.context
        = (.ok (some c.declarationTarget.outputPath), .empty, written) := by
      rw [close, htake]
      simp only [DeclarationTarget.writeOrStop_eq_ok_iff.2 ⟨rfl, hwrite⟩]
    rw [moment, next, answer, hclose]
    refine ⟨fun t ht => ⟨rfl, Except.ok.inj ht⟩, fun fault hf => absurd hf (by simp), rfl⟩
  | error fault =>
    obtain ⟨left, hstopped⟩ := DeclarationTarget.write_eq_error_iff.1 hwrite
    have hclose : c.close s.files s.context
        = (.error (.unwritable c.declarationTarget.outputPath fault), .empty, left) := by
      rw [close, htake]
      simp only [hstopped]
    rw [moment, next, answer, hclose]
    refine ⟨fun t ht => absurd ht (by simp), fun f hf => ?_, rfl⟩
    rw [Except.error.inj hf]

/-- Closing replies that there is nothing just when nothing is kept. -/
theorem reply_close_eq_none_iff (c : Config) {s : Session} :
    (c.moment s .close).reply = .close (.ok none) ↔ s.context.cached = none := by
  refine ⟨fun h => ?_, fun h => (close_of_cached_eq_none c h).1⟩
  cases hcached : s.context.cached with
  | none => rfl
  | some m =>
    obtain ⟨hok, herror, -⟩ := close_of_cached_eq_some c hcached
    cases hwrite : c.declarationTarget.write s.files m.wrappers with
    | ok written => exact absurd ((hok written hwrite).1.symm.trans h) (by simp)
    | error fault => exact absurd ((herror fault hwrite).symm.trans h) (by simp)

/-- Closing leaves an empty context. -/
theorem context_next_close (c : Config) (s : Session) : (c.next s .close).context = .empty := by
  cases h : s.context.cached with
  | none => exact (close_of_cached_eq_none c h).2
  | some m => exact (close_of_cached_eq_some c h).2.2

/-- All requests but loads and closings leave the context. -/
theorem next_of_ne (c : Config) (s : Session) {r : Request} (hload : ∀ id, r ≠ .load id)
    (hclose : r ≠ .close) :
    ¬(c.moment s r).IsLoaded ∧ ¬(c.moment s r).IsClose ∧
      (c.next s r).context = s.context := by
  refine ⟨fun h => hload _ h.1, hclose, ?_⟩
  cases r with
  | load id => exact absurd rfl (hload id)
  | close => exact absurd rfl hclose
  | _ => rfl

/-- **What a request does to the context** — a load that succeeds puts its module there, closing
takes away what is there, and all else leaves it. -/
theorem next_cases (c : Config) (s : Session) (r : Request) :
    (∃ m, (c.moment s r).Generates c m ∧ (c.next s r).context = ⟨some m⟩) ∨
    ((c.moment s r).IsClose ∧ (c.next s r).context = .empty) ∨
    (¬(c.moment s r).IsLoaded ∧ ¬(c.moment s r).IsClose ∧ (c.next s r).context = s.context) := by
  cases r with
  | load id =>
    by_cases hid : id = resolvedVirtualModuleId
    · subst hid
      cases hgen : c.generate s.files with
      | ok m => exact Or.inl ⟨m, load_of_generate c hgen⟩
      | error e =>
        obtain ⟨hreply, hcontext⟩ := load_of_unloadable c (generate_eq_error_iff.1 hgen)
        refine Or.inr (Or.inr ⟨fun ⟨_, text, ht⟩ => ?_, by simp [Moment.IsClose, moment], hcontext⟩)
        exact absurd (hreply.symm.trans ht) (by simp)
    · refine Or.inr (Or.inr ⟨fun ⟨hr, _⟩ => hid ?_, by simp [Moment.IsClose, moment],
        (load_of_ne c s hid).2⟩)
      simpa [moment] using hr
  | close => exact Or.inr (Or.inl ⟨rfl, context_next_close c s⟩)
  | _ => exact Or.inr (Or.inr (next_of_ne c s (by simp) (by simp)))

/-! ## All requests -/

/-- Whether a module is the one that a record leaves: that of its last load that succeeded, with no
closing behind it. -/
def Leaves (c : Config) (record : List Moment) (m : GeneratedModule) : Prop :=
  Since (·.Generates c m) (fun x => ¬x.IsLoaded ∧ ¬x.IsClose) record

/-- **Whether the context of a session is what its record leaves.** -/
structure Faithful (c : Config) (s : Session) : Prop where
  isSome_iff : s.context.cached.isSome = true ↔ Since Moment.IsLoaded (¬·.IsClose) s.record
  eq_some_iff : ∀ m, s.context.cached = some m ↔ c.Leaves s.record m

theorem faithful_start (c : Config) (files : FileTree) : c.Faithful (.start files) where
  isSome_iff := iff_of_false (by simp [Session.start, BuildContext.empty]) not_since_nil
  eq_some_iff _ := iff_of_false (by simp [Session.start, BuildContext.empty]) not_since_nil

/-- **A request keeps context and record in step.** -/
theorem Faithful.next {s : Session} (h : c.Faithful s) (r : Request) : c.Faithful (c.next s r) := by
  have hrecord : (c.next s r).record = s.record ++ [c.moment s r] := rfl
  rcases next_cases c s r with ⟨m, hm, hcontext⟩ | ⟨hclose, hcontext⟩ | ⟨hload, hclose, hcontext⟩
  · refine ⟨?_, fun m' => ?_⟩
    · rw [hcontext, hrecord, since_concat_iff]
      exact iff_of_true rfl (Or.inl hm.isLoaded)
    · rw [hcontext, hrecord, Leaves, since_concat_iff, Option.some.injEq]
      refine ⟨fun heq => Or.inl (heq ▸ hm), ?_⟩
      rintro (hm' | ⟨hlasts, -⟩)
      · exact hm.unique hm'
      · exact absurd hm.isLoaded hlasts.1
  · have hload : ¬(c.moment s r).IsLoaded := fun hl => hl.not_isClose hclose
    refine ⟨?_, fun m' => ?_⟩
    · rw [hcontext, hrecord, since_concat_iff]
      refine iff_of_false (by simp [BuildContext.empty]) ?_
      rintro (hl | ⟨hopen, -⟩)
      · exact hload hl
      · exact hopen hclose
    · rw [hcontext, hrecord, Leaves, since_concat_iff]
      refine iff_of_false (by simp [BuildContext.empty]) ?_
      rintro (hm' | ⟨hlasts, -⟩)
      · exact hload hm'.isLoaded
      · exact hlasts.2 hclose
  · refine ⟨?_, fun m' => ?_⟩
    · rw [hcontext, hrecord, since_concat_iff, h.isSome_iff, or_iff_right hload,
        and_iff_right hclose]
    · rw [hcontext, hrecord, Leaves, since_concat_iff, h.eq_some_iff, Leaves,
        or_iff_right fun hm' : (c.moment s r).Generates c m' => hload hm'.isLoaded,
        and_iff_right ⟨hload, hclose⟩]

theorem faithful_run (c : Config) (files : FileTree) (rs : List Request) :
    c.Faithful (c.run files rs) := by
  induction rs using List.reverseRecOn with
  | nil => exact faithful_start c files
  | append_singleton rs r ih =>
    rw [run_concat]
    exact ih.next r

/-- **The context law** — behind every row of requests a module is kept exactly when a load of the
virtual module has succeeded and nothing was closed since; it is the module of the last such load,
with the wrappers of the elements found then and the text given then.  A load that fails, at any of
its stages, and a load of another module leave the context as it is.  Closing replies that there is
nothing exactly when nothing is kept, and otherwise writes the declarations of what is kept, in the
files as they are by then; the context is empty behind it. -/
theorem context_law (c : Config) (files : FileTree) (rs : List Request) :
    let s := c.run files rs
    s.record.map (·.request) = rs ∧
    (s.context.cached.isSome = true ↔ Since Moment.IsLoaded (¬·.IsClose) s.record) ∧
    (∀ m, s.context.cached = some m ↔
      Since (·.Generates c m) (fun x => ¬x.IsLoaded ∧ ¬x.IsClose) s.record) ∧
    (∀ e, ((c.moment s (.load resolvedVirtualModuleId)).reply = .load (.error e) ↔
        c.Unloadable s.files e) ∧
      (c.Unloadable s.files e →
        (c.run files (rs ++ [.load resolvedVirtualModuleId])).context = s.context)) ∧
    (∀ id, id ≠ resolvedVirtualModuleId →
      (c.moment s (.load id)).reply = .load (.ok none) ∧
      (c.run files (rs ++ [.load id])).context = s.context) ∧
    ((c.moment s .close).reply = .close (.ok none) ↔ s.context.cached = none) ∧
    (∀ m, s.context.cached = some m →
      (∀ written, c.declarationTarget.write s.files m.wrappers = .ok written →
        (c.moment s .close).reply = .close (.ok (some c.declarationTarget.outputPath)) ∧
        (c.run files (rs ++ [.close])).files = written) ∧
      ∀ fault, c.declarationTarget.write s.files m.wrappers = .error fault →
        (c.moment s .close).reply
          = .close (.error (.unwritable c.declarationTarget.outputPath fault))) ∧
    (c.run files (rs ++ [.close])).context = .empty := by
  intro s
  simp only [run_concat]
  have hfaithful : c.Faithful s := faithful_run c files rs
  refine ⟨map_request_record_run c files rs, hfaithful.isSome_iff, hfaithful.eq_some_iff,
    fun e => ⟨reply_load_eq_error_iff c, fun h => (load_of_unloadable c h).2⟩,
    fun id hid => load_of_ne c s hid, reply_close_eq_none_iff c, fun m hm => ?_,
    context_next_close c s⟩
  obtain ⟨hok, herror, -⟩ := close_of_cached_eq_some c hm
  exact ⟨hok, herror⟩

end Config

end ElementBindings
