import TypedConfig.Proofs.CommandLine.Emitted
import TypedConfig.Proofs.Module.Conformance
import TypedConfig.Proofs.Resolution.Choice

/-!
The source of an emission. What is emitted depends on the source only through what it is seen to set
(`result_emit`), and a source that is given is seen to set what the file at its path sets exactly if the path
is not spelled like a variable between two markers (`emit_reads_iff`).
-/

namespace TypedConfig.Source.Locator

/-- A locator names a variable exactly if it is the name between two markers. -/
theorem namedVariable?_eq_some_iff {l : Locator} {locator v : String} :
    l.namedVariable? locator = some v ↔ locator.toList = l.marker :: (v.toList ++ [l.marker]) := by
  unfold namedVariable?
  cases locator.toList with
  | nil => simp
  | cons first rest =>
    simp only [Option.ite_none_right_eq_some, Option.some.injEq, Bool.and_eq_true, decide_eq_true_eq,
      beq_iff_eq, List.cons.injEq]
    constructor
    · rintro ⟨⟨rfl, hlast⟩, rfl⟩
      refine ⟨rfl, ?_⟩
      rw [String.toList_ofList]
      exact (List.dropLast_append_getLast? _ hlast).symm
    · rintro ⟨rfl, rfl⟩
      simp

theorem namedVariable?_default_iff {locator v : String} :
    Locator.default.namedVariable? locator = some v ↔ locator = "@" ++ v ++ "@" := by
  rw [namedVariable?_eq_some_iff, ← String.toList_inj]
  simp [Locator.default, defaultMarker]

end TypedConfig.Source.Locator

namespace TypedConfig.CommandLine

open Contract (Accessor Declaration Descriptor)
open Resolution (Binding Observation ResolvedAccessor)
open Source (Locator Properties)

variable {o : Outside} {name : String} {source : Option Path} {path : Path} {specs : List String}
  {out : Option Path} {d d' : Descriptor} {b b' : Binding} {effect : Effect}

/-! ### What is emitted from what a source sets -/

/-- The locator that stands for a source. -/
def locatorOf (source : Option Path) : String := (source.map Path.text).getD noSource

/-- What a source is seen to set. Without a source nothing is set. -/
def seen (o : Outside) : Option Path → Properties
  | none => .empty
  | some path => Resolution.overridesIn o.surroundings .default () path.text

/-- What is emitted for a contract where something is set, whatever source has set it. -/
def emittedFrom (overrides : Properties) (name : String) (specs : List String) (out : Option Path) :
    Except Failure Effect :=
  match contractOf name none specs with
  | .error e => .error e
  | .ok d =>
    match (Observation.mk none overrides []).bind d with
    | .error e => .error (.resolution e)
    | .ok b => (moduleOf d b).map (delivery out)

theorem contractOf_eq (name : String) (source : Option Path) (specs : List String) :
    contractOf name source specs =
      (contractOf name none specs).map fun d => { d with locator := locatorOf source } := by
  unfold contractOf
  cases accessorsOf specs with
  | error e => rfl
  | ok declared =>
    simp only [Declaration.validate, Bool.not_true, Bool.false_eq_true, if_false]
    cases Contract.checkAccessors name [] declared <;> rfl

theorem locator_of_contractOf (h : contractOf name source specs = .ok d) :
    d.locator = locatorOf source := by
  rw [contractOf_eq] at h
  cases hnone : contractOf name none specs with
  | error e =>
    rw [hnone] at h
    cases h
  | ok d' =>
    rw [hnone] at h
    cases h
    rfl

theorem moduleOf_congr (htype : d.typeName = d'.typeName) (haccessors : d.accessors = d'.accessors)
    (hb : b.accessors = b'.accessors) : moduleOf d b = moduleOf d' b' := by
  obtain ⟨typeName, locator, accessors⟩ := d
  obtain ⟨typeName', locator', accessors'⟩ := d'
  obtain rfl : typeName = typeName' := htype
  obtain rfl : accessors = accessors' := haccessors
  have hslots : Module.slotsOf b = Module.slotsOf b' := by rw [Module.slotsOf, Module.slotsOf, hb]
  simp only [moduleOf, Module.assembleFor, Module.contentsOf, hslots]
  rfl

/-- A contract is bound to what the source is seen to set. -/
theorem exists_bindingOf (o : Outside) (hd : d.locator = locatorOf source) :
    ∃ a : Observation, a.overrides = seen o source ∧
      bindingOf o source d = (a.bind d).mapError .resolution := by
  have hresolve : ∀ o' : Outside, ∃ a : Observation,
      a.overrides = Resolution.overridesIn o'.surroundings .default () d.locator ∧
        (Resolution.resolve o'.surroundings .default () .empty d).1 = a.bind d := fun o' =>
    ⟨_, Resolution.overrides_approach o'.surroundings .default () .empty d.locator, rfl⟩
  cases source with
  | none =>
    -- a locator is followed here too, but every file reads as if nothing were set in it
    obtain ⟨a, ha, hbind⟩ := hresolve { o with readText := fun _ => .ok "" }
    refine ⟨a, ?_, ?_⟩
    · rw [ha, hd]
      rfl
    · simp only [bindingOf, Option.isNone_none, if_true, hbind]
      cases a.bind d <;> rfl
  | some path =>
    obtain ⟨a, ha, hbind⟩ := hresolve o
    refine ⟨a, ?_, ?_⟩
    · rw [ha, hd]
      rfl
    · simp only [bindingOf, Option.isNone_some, Bool.false_eq_true, if_false, hbind]
      cases a.bind d <;> rfl

theorem resolveAccessors_of_bindingOf (hd : d.locator = locatorOf source)
    (hb : bindingOf o source d = .ok b) :
    Resolution.resolveAccessors d.typeName (seen o source) d.accessors = .ok b.accessors := by
  obtain ⟨a, ha, hbinding⟩ := exists_bindingOf o hd
  rw [hbinding, Observation.bind, ha] at hb
  cases hresolved : Resolution.resolveAccessors d.typeName (seen o source) d.accessors with
  | error e =>
    rw [hresolved] at hb
    cases hb
  | ok accessors =>
    rw [hresolved] at hb
    cases hb
    rfl

/-- **What is emitted depends on the source only through what it is seen to set.** -/
theorem result_emit (o : Outside) (name : String) (source : Option Path) (specs : List String)
    (out : Option Path) :
    (emit o name source specs out).result = emittedFrom (seen o source) name specs out := by
  unfold emit emittedFrom
  rw [contractOf_eq name source specs]
  cases contractOf name none specs with
  | error e => rfl
  | ok d =>
    simp only [Except.map]
    have hlocator : { d with locator := locatorOf source }.locator = locatorOf source := rfl
    obtain ⟨a, ha, hbinding⟩ := exists_bindingOf o hlocator
    simp only [hbinding, Observation.bind, ha]
    cases Resolution.resolveAccessors d.typeName (seen o source) d.accessors with
    | error e => rfl
    | ok accessors =>
      have hmodule : ∀ b : Binding, b.accessors = accessors →
          moduleOf { d with locator := locatorOf source } b =
            moduleOf d ⟨d.typeName, accessors, Resolution.fingerprint accessors, none, false, []⟩ :=
        fun b hb => moduleOf_congr rfl rfl hb
      simp only [Except.mapError]
      rw [hmodule _ rfl]
      cases out <;> rfl

/-! ### What a module answers -/

/-- An accessor whose key is set takes the text of its key, unless that is empty and a single character is
wanted. -/
theorem resolveAccessor_of_set {contract t : String} {overrides : Properties} {a : Accessor}
    {r : ResolvedAccessor} (ht : overrides.get? a.key = some t) (hempty : ¬ (a.kind = .char ∧ t = ""))
    (h : Resolution.resolveAccessor contract overrides a = .ok r) :
    ∃ v, Scalar.convert t a.kind = .ok v ∧ r = ⟨a.name, a.kind, a.key, t, v, false⟩ := by
  have habsent : ∀ k, Scalar.convert t a.kind ≠ .error (.absent k) := fun k hk =>
    hempty ⟨(Scalar.convert_eq_absent_iff.1 hk).1, (Scalar.convert_eq_absent_iff.1 hk).2.1⟩
  unfold Resolution.resolveAccessor at h
  rw [ht] at h
  dsimp only at h
  split at h
  · rename_i k hk
    exact absurd hk (habsent k)
  · unfold Resolution.resolveText at h
    split at h
    · rename_i v hv
      cases h
      exact ⟨v, hv, rfl⟩
    · cases h

theorem exists_mem_of_resolveAccessors {contract : String} {overrides : Properties}
    {accessors : List Accessor} {resolved : List ResolvedAccessor}
    (h : Resolution.resolveAccessors contract overrides accessors = .ok resolved) :
    ∀ a ∈ accessors, ∃ r ∈ resolved, Resolution.resolveAccessor contract overrides a = .ok r := by
  induction accessors generalizing resolved with
  | nil => simp
  | cons a accessors ih =>
    unfold Resolution.resolveAccessors at h
    split at h
    · cases h
    · rename_i r hr
      split at h
      · cases h
      · rename_i others hothers
        cases h
        refine List.forall_mem_cons.2 ⟨⟨r, List.mem_cons_self, hr⟩, fun c hc => ?_⟩
        obtain ⟨r', hr', heq⟩ := ih hothers c hc
        exact ⟨r', List.mem_cons_of_mem _ hr', heq⟩

/-- What has been handed out is activated, and answers every accessor by the value that it is bound to. -/
theorem exists_loaded {bytes : List UInt8} (hd : contractOf name source specs = .ok d)
    (hb : bindingOf o source d = .ok b) (hm : moduleOf d b = .ok bytes) :
    ∃ loaded, Module.activate bytes d = .ok loaded ∧
      ∀ r ∈ b.accessors, loaded.value? r.name = some r.value := by
  have hof := of_bindingOf hb
  obtain ⟨-, -, -, -, hnodup⟩ := of_contractOf hd
  have hnames : ((Module.slotsOf b).map Module.Slot.name).Nodup := by
    rwa [Module.names_slotsOf hof]
  refine ⟨_, Module.activate_eq_ok (parse_of_moduleOf hm) rfl (Module.matches_slotsOf hof) hnames,
    fun r hr => ?_⟩
  rw [Module.Loaded.value?_eq_some_iff hnames]
  exact List.mem_map.2 ⟨r, hr, rfl⟩

/-- An emission reads a text. It comes to what is emitted from the properties in the text; and a module that
is emitted answers every accessor whose key is set there by what the text of the key converts to, and never
by the default, unless the text is empty and a single character is wanted. -/
structure Reads (o : Outside) (name : String) (path : Path) (specs : List String) (out : Option Path)
    (text : String) : Prop where
  result : (emit o name (some path) specs out).result = emittedFrom (.read text) name specs out
  answers : ∀ effect, (emit o name (some path) specs out).result = .ok effect →
    ∃ d b bytes loaded, contractOf name (some path) specs = .ok d ∧
      bindingOf o (some path) d = .ok b ∧ effect = delivery out bytes ∧
      Module.activate bytes d = .ok loaded ∧
      ∀ a ∈ d.accessors, ∀ t, (Properties.read text).get? a.key = some t →
        ¬ (a.kind = .char ∧ t = "") →
          ∃ v, Scalar.convert t a.kind = .ok v ∧
            (⟨a.name, a.kind, a.key, t, v, false⟩ : ResolvedAccessor) ∈ b.accessors ∧
            loaded.value? a.name = some v

theorem reads_of_seen {text : String} (h : seen o (some path) = .read text) :
    Reads o name path specs out text := by
  refine ⟨by rw [result_emit, h], fun effect heffect => ?_⟩
  obtain ⟨d, b, bytes, hd, hb, hm, rfl⟩ := of_emit heffect
  obtain ⟨loaded, hloaded, hvalue⟩ := exists_loaded hd hb hm
  refine ⟨d, b, bytes, loaded, hd, hb, rfl, hloaded, fun a ha t ht hempty => ?_⟩
  have hresolved := resolveAccessors_of_bindingOf (locator_of_contractOf hd) hb
  rw [h] at hresolved
  obtain ⟨r, hr, hra⟩ := exists_mem_of_resolveAccessors hresolved a ha
  obtain ⟨v, hv, rfl⟩ := resolveAccessor_of_set ht hempty hra
  exact ⟨v, hv, hr, hvalue _ hr⟩

/-! ### Paths that are spelled like a variable -/

theorem seen_of_plain (h : ∀ v, path.text ≠ "@" ++ v ++ "@") :
    seen o (some path) =
      match o.readText path with
      | .ok text => .read text
      | .error _ => .empty := by
  have hnone : Locator.default.namedVariable? path.text = none :=
    Option.eq_none_iff_forall_ne_some.2 fun v hv => h v (Locator.namedVariable?_default_iff.1 hv)
  simp only [seen, Resolution.overridesIn, Locator.locate, hnone]
  rfl

/-- A path that is spelled like a variable is not followed: its variable is. -/
theorem seen_of_marked {v : String} (h : path.text = "@" ++ v ++ "@") :
    seen o (some path) =
      match Locator.default.lookup o.environment v with
      | none => .empty
      | some value =>
        match o.readText ⟨value⟩ with
        | .ok text => .read text
        | .error _ => .empty := by
  have hsome := Locator.namedVariable?_default_iff.2 h
  have henvironment : o.surroundings.environment () = o.environment := rfl
  simp only [seen, Resolution.overridesIn, Locator.locate, hsome, henvironment]
  cases Locator.default.lookup o.environment v <;> rfl

theorem lookup_default (environment : String → Option String) {v : String} (h : v ≠ "") :
    Locator.default.lookup environment v = environment v := by
  rw [Locator.lookup, if_neg (by simpa using h)]
  rfl

/-- A world in which every path leads to a file with one flag set, and no variable is. -/
def flagEverywhere : Outside where
  environment _ := none
  canonical _ := .ok ⟨[]⟩
  readText _ := .ok "f=true\n"
  readBytes _ := .error .notFound

/-- Where the file is not followed, the flag that it sets has its default. -/
theorem not_reads_flag (h : seen flagEverywhere (some path) = .empty) :
    ¬ Reads flagEverywhere "app::Flags" path ["flag:bool:f:false"] none "f=true\n" := by
  intro hreads
  have hemitted : (emittedFrom .empty "app::Flags" ["flag:bool:f:false"] none).isOk = true := by
    decide +kernel
  have hcontract : contractOf "app::Flags" none ["flag:bool:f:false"] =
      .ok ⟨"app::Flags", noSource, [⟨"flag", .bool, "f", "false"⟩]⟩ := by decide +kernel
  have hdefault : Resolution.resolveAccessors "app::Flags" .empty [⟨"flag", .bool, "f", "false"⟩] =
      .ok [⟨"flag", .bool, "f", "false", .bool false, true⟩] := by decide +kernel
  have hset : (Properties.read "f=true\n").get? "f" = some "true" := by decide +kernel
  cases heffect : (emit flagEverywhere "app::Flags" (some path) ["flag:bool:f:false"] none).result with
  | error e =>
    rw [result_emit, h] at heffect
    rw [heffect] at hemitted
    cases hemitted
  | ok effect =>
    obtain ⟨d, b, _, _, hd, hb, -, -, hanswers⟩ := hreads.answers effect heffect
    have hresolved := resolveAccessors_of_bindingOf (locator_of_contractOf hd) hb
    rw [contractOf_eq, hcontract] at hd
    cases hd
    rw [h, hdefault] at hresolved
    obtain ⟨v, -, hmem, -⟩ := hanswers _ List.mem_cons_self "true" hset (by simp)
    rw [← Except.ok.inj hresolved] at hmem
    simp at hmem

/-- **The file that is given is read exactly if its path is not spelled like a variable**, whatever the
environment, the file and the accessors are. Of a path that is spelled like a variable, this variable is
followed: if it is not set, the emission is one without a source, and otherwise the file that it leads to
is read in the place of the one that is given. Paths are Unicode texts, as they are shown; a path that is not
one, and that would be changed to be shown, is outside of this. -/
theorem emit_reads_iff (path : Path) :
    ((∀ o name specs out text, o.readText path = .ok text → Reads o name path specs out text) ↔
      ∀ v, path.text ≠ "@" ++ v ++ "@") ∧
    ∀ v, path.text = "@" ++ v ++ "@" → ∀ o name specs out,
      (v = "" ∨ o.environment v = none →
        (emit o name (some path) specs out).result = (emit o name none specs out).result) ∧
      ∀ value, v ≠ "" → o.environment v = some value →
        (∀ e, o.readText ⟨value⟩ = .error e →
          (emit o name (some path) specs out).result = (emit o name none specs out).result) ∧
        ∀ text, o.readText ⟨value⟩ = .ok text → Reads o name path specs out text := by
  have hunset : ∀ v, path.text = "@" ++ v ++ "@" → ∀ o : Outside,
      v = "" ∨ o.environment v = none → seen o (some path) = seen o none := by
    intro v hv o hunset
    rw [seen_of_marked hv]
    by_cases hempty : v = ""
    · subst hempty
      rfl
    · rw [lookup_default _ hempty, hunset.resolve_left hempty]
      rfl
  refine ⟨⟨fun hreads v hv => ?_, fun hplain o name specs out text htext => ?_⟩,
    fun v hv o name specs out => ⟨fun h => ?_, fun value hne hvalue => ⟨fun e he => ?_, fun text htext => ?_⟩⟩⟩
  · -- where no variable is set, a file that sets a flag is not followed
    exact not_reads_flag (hunset v hv flagEverywhere (.inr rfl)) (hreads flagEverywhere _ _ _ _ rfl)
  · exact reads_of_seen (by rw [seen_of_plain hplain, htext])
  · rw [result_emit, result_emit, hunset v hv o h]
  · rw [result_emit, result_emit, seen_of_marked hv, lookup_default _ hne, hvalue]
    simp only [he, seen]
  · refine reads_of_seen ?_
    rw [seen_of_marked hv, lookup_default _ hne, hvalue]
    simp only [htext]

/-! ### A file between two markers -/

section Conf

/-- A directory with one properties file, which is named like a variable that is not set. -/
def markedConf : Outside where
  environment _ := none
  canonical _ := .ok ⟨[]⟩
  readText path :=
    if path = ⟨"@conf@"⟩ ∨ path = ⟨"./@conf@"⟩ then .ok "f=true\n" else .error .notFound
  readBytes _ := .error .notFound

/-- Emits a module with one flag from a file. -/
def emitConf (path : String) : Outcome :=
  emit markedConf "app::Flags" (some ⟨path⟩) ["flag:bool:f:false"] (some ⟨"m.class"⟩)

/-- The module that is emitted. -/
def confModule (path : String) : List UInt8 := ((emitConf path).file?.map (·.2)).getD []

/-- The file is there and sets the flag, but the module that is emitted answers the default, and so it does
not return what the file sets. -/
theorem defaults_for_markedConf :
    markedConf.readText ⟨"@conf@"⟩ = .ok "f=true\n" ∧
    (Properties.read "f=true\n").get? "f" = some "true" ∧
    (emitConf "@conf@").result = .ok (.write ⟨"m.class"⟩ (confModule "@conf@")) ∧
    (emitConf "@conf@").warnings = [.unresolvedVariable "@conf@" "conf"] ∧
    Module.activate (confModule "@conf@")
        ⟨"app::Flags", "@conf@", [⟨"flag", .bool, "f", "false"⟩]⟩ =
      .ok ⟨"app/Flags$CG1", "app::Flags", [⟨"flag", .bool false⟩]⟩ := by
  decide +kernel

/-- Under another spelling of its path the same file is read. -/
theorem emit_reads_iff_conf :
    (emitConf "./@conf@").result = .ok (.write ⟨"m.class"⟩ (confModule "./@conf@")) ∧
    Reads markedConf "app::Flags" ⟨"./@conf@"⟩ ["flag:bool:f:false"] (some ⟨"m.class"⟩) "f=true\n" ∧
    (emitConf "@conf@").result =
      (emit markedConf "app::Flags" none ["flag:bool:f:false"] (some ⟨"m.class"⟩)).result := by
  have hplain : ∀ v, (⟨"./@conf@"⟩ : Path).text ≠ "@" ++ v ++ "@" := by
    intro v hv
    have hhead := congrArg (fun s : String => s.toList.head?) hv
    simp at hhead
  refine ⟨by decide +kernel, (emit_reads_iff ⟨"./@conf@"⟩).1.2 hplain _ _ _ _ _ (by decide +kernel), ?_⟩
  exact ((emit_reads_iff ⟨"@conf@"⟩).2 "conf" (by decide) _ _ _ _).1 (.inr rfl)

end Conf

end TypedConfig.CommandLine
