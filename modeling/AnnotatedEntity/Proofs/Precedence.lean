/-
Which options count. An options file that is named on the command line is the only one that is
looked at; what the command line sets itself stands in the place of what the file says, wherever it
is used; and without a named file the user's own one counts, for which the defaults stand in where
it is absent. Each of these is said of two whole runs (`run_of_precedence`). They follow from one
fact about the work of a run: past its first two events it is decided by the options that are
settled and by the manifest as it is read (`ofCommandLine_of_loaded`, `ofOptions_congr`).
-/
import AnnotatedEntity.Proofs.Verbosity

namespace AnnotatedEntity

namespace Execution

variable {files others : Files} {userOptions : Option String} {line : CommandLine} {path : String}

/-! ## The options file that counts -/

theorem optionsPath_of_named (h : line.optionsFile = some path) (userOptions : Option String) :
    optionsPath files userOptions line = some path := by
  simp only [optionsPath, h]

theorem optionsPath_of_absent (h : line.optionsFile = none)
    (habsent : ∀ p, userOptions = some p → files.isFile p = false) :
    optionsPath files userOptions line = none := by
  simp only [optionsPath, h, Option.filter_eq_none_iff]
  intro p hp
  simp [habsent p hp]

theorem optionsPath_of_user (h : line.optionsFile = none) (hfile : files.isFile path = true) :
    optionsPath files (some path) line = some path := by
  simp only [optionsPath, h, Option.filter_some, hfile, if_true]

/-- Options can only be loaded from a file that is there. -/
theorem isFile_of_load {o : Options} (h : Options.load files path = .ok o) :
    files.isFile path = true := by
  cases hread : files path with
  | ok content => simp [Files.isFile, hread, Except.isOk, Except.toBool]
  | error cause =>
    have htext : files.text path = .error cause := by simp [Files.text, hread, bind, Except.bind]
    simp [Options.load, Files.load, Files.document, htext, bind, Except.bind] at h

/-! ## The work under options that are settled -/

theorem loadOptions_of_load {o : Options} (h : Options.load files path = .ok o) :
    loadOptions files (some path) = .ok o := by
  rw [loadOptions, h, Except.mapError]

/-- The work under settled options depends on the manifest as it is read. -/
theorem ofOptions_congr (h : Manifest.load others path = Manifest.load files path) (o : Options) :
    ofOptions others path o = ofOptions files path o := by
  rw [ofOptions, h, ofOptions]

/-- The work, once the options are loaded: two events and then what the settled options give. -/
theorem ofCommandLine_of_loaded {counting : Option String} {loaded o : Options}
    (hpath : optionsPath files userOptions line = counting)
    (hloaded : loadOptions files counting = .ok loaded) (ho : override line loaded = o) :
    ofCommandLine files userOptions line =
      (ofOptions files line.manifest o).after [optionsEvent counting, settingsEvent o] "" := by
  subst hpath ho
  simp only [ofCommandLine, hloaded]

/-- Beside a named file the user's own one is not looked at. -/
theorem ofCommandLine_of_named (h : line.optionsFile = some path)
    (hfile : others path = files path) (hmanifest : others line.manifest = files line.manifest)
    (otherUser : Option String) :
    ofCommandLine others otherUser line = ofCommandLine files userOptions line := by
  have hfiles : ofCommandLine others otherUser line = ofCommandLine files otherUser line := by
    refine ofCommandLine_congr fun p hp => ?_
    simp only [CommandLine.paths, h, Option.some_or, Option.toList_some, List.mem_cons,
      List.not_mem_nil, or_false] at hp
    rcases hp with rfl | rfl
    · exact hmanifest
    · exact hfile
  have hpath : optionsPath files otherUser line = optionsPath files userOptions line := by
    rw [optionsPath_of_named h, optionsPath_of_named h]
  rw [hfiles]
  simp only [ofCommandLine, hpath]

end Execution

/-- The command line without what it sets of the options. -/
def CommandLine.bare (c : CommandLine) : CommandLine := { c with quote := none, typehint := false }

namespace Program

open Execution

/-- **Which options count.** (1) Beside a named options file the user's own one makes no difference
to a run, whatever it holds or whether it is there. (2) What the command line sets is as if the
named file said it. (3) Where no file is named and the user has none, a run ends as it would with a
file of the defaults. Of the files, the second run finds the same manifest, and in (1) the same
named file. -/
theorem run_of_precedence (s : Surroundings) {args : List String} {line : CommandLine}
    (h : CommandLine.parse args = .ok line) :
    (∀ path files userOptions, line.optionsFile = some path → files path = s.files path →
      files line.manifest = s.files line.manifest →
      run { s with files, userOptions } args = run s args) ∧
    (∀ path files o bareArgs, line.optionsFile = some path →
      CommandLine.parse bareArgs = .ok line.bare →
      Options.load s.files path = .ok o →
      Options.load files path = .ok
        { o with
          quoteStrategy := line.quote.getD o.quoteStrategy
          propertyTypehint := line.typehint || o.propertyTypehint } →
      Manifest.load files line.manifest = Manifest.load s.files line.manifest →
      run { s with files } bareArgs = run s args) ∧
    (∀ path files, line.optionsFile = none →
      (∀ p, s.userOptions = some p → s.files.isFile p = false) →
      Options.load files path = .ok {} →
      Manifest.load files line.manifest = Manifest.load s.files line.manifest →
      let outcome := run { s with files, userOptions := some path } args
      outcome.exitCode = (run s args).exitCode ∧ outcome.output = (run s args).output ∧
        outcome.report = (run s args).report) := by
  refine ⟨fun path files userOptions hnamed hfile hmanifest => ?_,
    fun path files o bareArgs hnamed hbare ho hset hmanifest => ?_,
    fun path files hnone habsent hdefault hmanifest => ?_⟩
  · rw [run_of_execution s h, run_of_execution { s with files, userOptions } h,
      ofCommandLine_of_named hnamed hfile hmanifest]
    rfl
  · have hwork := ofCommandLine_of_loaded (optionsPath_of_named hnamed s.userOptions)
      (loadOptions_of_load ho) rfl
    have hbarenamed : line.bare.optionsFile = some path := hnamed
    have hbarework := ofCommandLine_of_loaded (optionsPath_of_named hbarenamed s.userOptions)
      (loadOptions_of_load hset) rfl
    rw [run_of_execution s h, run_of_execution { s with files } hbare, hwork, hbarework]
    simp only [CommandLine.bare, ofOptions_congr hmanifest]
    rfl
  · have hwork := ofCommandLine_of_loaded (optionsPath_of_absent hnone habsent)
      (show loadOptions s.files none = .ok {} from rfl) rfl
    have hother := ofCommandLine_of_loaded
      (optionsPath_of_user hnone (isFile_of_load hdefault)) (loadOptions_of_load hdefault) rfl
    rw [run_of_execution s h, run_of_execution { s with files, userOptions := some path } h, hwork,
      hother, ofOptions_congr hmanifest]
    exact ⟨rfl, rfl, rfl⟩

/-- The files of the shop and some more. -/
def shopWith (more : List (String × String)) : Files := fun path =>
  match more.lookup path with
  | some content => .ok content.toUTF8
  | none => shop.files path

theorem run_of_precedence_shop :
    let narrow : Surroundings := { shop with files := shopWith [("house.toml", "indentation = 2")] }
    let args := ["-c", "house.toml", "--quote", "always", "--typehint", "shop.toml"]
    run { narrow with
          files := shopWith [("house.toml", "indentation = 2"), ("own.toml", "indentation = two")]
          userOptions := some "own.toml" } args = run narrow args ∧
    run { narrow with
          files := shopWith [("house.toml", "indentation = 2\nproperty_typehint = true\n" ++
            "quote_identifier_strategy = \"always\"\n")] } ["-c", "house.toml", "shop.toml"] =
      run narrow args ∧
    (run { shop with files := shopWith [("own.toml", "")], userOptions := some "own.toml" }
        ["shop.toml"]).output = (run shop ["shop.toml"]).output := by
  intro narrow args
  have hargs : CommandLine.parse args = .ok
      { manifest := "shop.toml", optionsFile := some "house.toml", quote := some .always,
        typehint := true } := by decide
  obtain ⟨hown, hset, -⟩ := run_of_precedence narrow hargs
  have hshop : CommandLine.parse ["shop.toml"] = .ok { manifest := "shop.toml" } := by decide
  obtain ⟨-, -, hdefault⟩ := run_of_precedence shop hshop
  refine ⟨hown "house.toml" _ _ rfl rfl rfl, ?_, ?_⟩
  · exact hset "house.toml" _ { indentation := 2 } _ rfl (by decide) (by decide +kernel)
      (by decide +kernel) rfl
  · exact (hdefault "own.toml" (shopWith [("own.toml", "")]) rfl (by decide) (by decide +kernel)
      rfl).2.1

end Program

end AnnotatedEntity
