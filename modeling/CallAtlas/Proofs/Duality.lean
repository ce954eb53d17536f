import CallAtlas.Proofs.Mentions
import Mathlib.Logic.Relation

/-!
# Upstream and downstream

In the index of a project, what a method reaches through callees is compared with what reaches it
through callers.  One hop upstream is one hop downstream taken backwards, since the two sides of the
index describe one relation, so the paths are those of a relation and of its converse.
-/

namespace CallAtlas

open Project (SearchScope Host FileFilter)

namespace Traversal

/-- If the neighbours of two lookups are converse to each other, so are the methods that they
reach. -/
theorem reachable_iff_of_converse {forth back : Lookup}
    (converse : ∀ id other, Neighbour forth id other ↔ Neighbour back other id) {a b : String} :
    Reachable forth [a] [] b ↔ Reachable back [b] [] a := by
  have hswap : Neighbour back = Function.swap (Neighbour forth) := by
    funext id other
    exact propext (converse other id).symm
  rw [reachable_iff_chain, reachable_iff_chain, hswap, Relation.reflTransGen_swap]

end Traversal

namespace ProjectIndex

open Traversal

section

variable {files : List SourceFile}

/-- In the whole project, the callers of a method are the methods that have it as a callee. -/
theorem neighbour_converse (wellFormed : ∀ file ∈ files, file.WellFormed) {depth : Int}
    (hdepth : 1 ≤ depth) (id other : String) :
    Neighbour ((ofFiles files).resolver depth).callees id other ↔
      Neighbour (((ofFiles files).resolver depth).directCallers .wholeProject none) other id := by
  obtain ⟨callers, hcallers, hiff⟩ :=
    directCallers_iff wellFormed hdepth .wholeProject none (fun _ heq => nomatch heq) other
  constructor
  · rintro ⟨found, hfound, hother⟩
    obtain rfl := Except.ok.inj hfound
    -- a method with a callee is in the index, hence in the scope that leaves nothing out
    obtain ⟨file, hfile, ref, href, hid, -⟩ := mem_calleesOf.1 hother
    obtain ⟨⟨record, hrecord⟩, -⟩ :=
      indexed_of_enclosing wellFormed hfile href (List.mem_of_mem_head? hid)
    exact ⟨callers, hcallers, (hiff id).2 ⟨hother, record, hrecord, rfl⟩⟩
  · rintro ⟨found, hfound, hid⟩
    obtain rfl : callers = found := Except.ok.inj (hcallers.symm.trans hfound)
    exact ⟨_, rfl, ((hiff id).1 hid).1⟩

end

section

variable {host : Host} {filter : FileFilter} {index : ProjectIndex}

theorem wellFormed_of_readFile {project path : String} {file : SourceFile}
    (h : readFile host project path = .ok (some file)) : file.WellFormed := by
  unfold readFile at h
  split at h
  · cases h
  · dsimp only at h
    split at h
    · rename_i hparse
      obtain rfl := Except.ok.inj h
      exact wellFormed_of_parse hparse
    · cases h

/-- The index of a project is that of files that have been read. -/
theorem exists_files_of_build (built : build host filter = .ok index) :
    ∃ files, index = ofFiles files ∧ ∀ file ∈ files, file.WellFormed := by
  unfold build at built
  split at built
  · cases built
  · rename_i paths hpaths
    cases hread : paths.mapM (readFile host filter.project) with
    | error e =>
        rw [hread] at built
        cases built
    | ok files =>
        rw [hread] at built
        obtain rfl := Except.ok.inj built
        refine ⟨_, rfl, fun file hfile => ?_⟩
        obtain ⟨file', hfile', rfl⟩ := List.mem_filterMap.1 hfile
        obtain ⟨path, -, hpath⟩ := exists_right_of_forall₂ (mapM_ok hread).flip hfile'
        exact wellFormed_of_readFile hpath

/-- In the index of a project, one method is met downstream of another exactly if the other is met
upstream of the one. -/
theorem downstream_iff_upstream (built : build host filter = .ok index) {depth : Int}
    (hdepth : 1 ≤ depth) (pool pool' : Pool) (a b : String) :
    ∃ down up w w',
      (index.resolver depth).focusMap .wholeProject .downstream pool a (.start .never) =
        (.ok down, w) ∧
      (index.resolver depth).focusMap .wholeProject .upstream pool' b (.start .never) =
        (.ok up, w') ∧
      (b ∈ down.keys ↔ a ∈ up.keys) := by
  obtain ⟨files, rfl, wellFormed⟩ := exists_files_of_build built
  have hgathered : ∀ (direction : Direction) (pool : Pool) (focus : String),
      ∃ m w, ((ofFiles files).resolver depth).focusMap .wholeProject direction pool focus
        (.start .never) = (.ok m, w) := by
    intro direction pool focus
    apply focusMap_calm (w := .start .never) _ _ _ _ _ rfl
    · exact fun id => ⟨_, rfl⟩
    · exact fun id => ⟨_, rfl⟩
  obtain ⟨down, w, hdown⟩ := hgathered .downstream pool a
  obtain ⟨up, w', hup⟩ := hgathered .upstream pool' b
  refine ⟨down, up, w, w', hdown, hup, ?_⟩
  have hreachable := reachable_iff_of_converse (neighbour_converse wellFormed hdepth) (a := a) (b := b)
  rw [mem_keys_focusMap hdown, mem_keys_focusMap hup]
  simp [Direction.includesUpstream, Direction.includesDownstream, hreachable, eq_comm]

end

/-- A project with one file, in which `f` calls `g`, and `g` calls `h` and itself. -/
def chainHost : Host where
  tree := ⟨[(["p"], .directory), (["p", "a.py"], .file
    ("def f():\n  g()\ndef g():\n  g()\n  h()\ndef h():\n  pass\n".toList.map (·.toNat.toUInt8)))]⟩
  current := []
  environment := []
  ownHome := "/"
  homes := []

def chainFilter : FileFilter := ⟨"/p", 1024, 64, 100, [".py"], []⟩

def chainFile : SourceFile where
  path := "a.py"
  symbols := [
    ⟨"f", .function, 1, 2, some "def f()", none⟩,
    ⟨"g", .function, 3, 5, some "def g()", none⟩,
    ⟨"h", .function, 6, 7, some "def h()", none⟩]
  references := [
    ⟨"a.py::f", "g", .calls, 2, ["a.py::f"], none⟩,
    ⟨"a.py::g", "g", .calls, 4, ["a.py::g"], none⟩,
    ⟨"a.py::g", "h", .calls, 5, ["a.py::g"], none⟩]

theorem build_chain : build chainHost chainFilter = .ok (ofFiles [chainFile]) := by
  have hpaths : chainFilter.files chainHost none = .ok ["a.py"] :=
    eq_ok_of_toOption (by decide +kernel)
  have hread : readFile chainHost "/p" "a.py" = .ok (some chainFile) :=
    eq_ok_of_toOption (by decide +kernel)
  have hfiles : ["a.py"].mapM (readFile chainHost "/p") = .ok [some chainFile] := by
    rw [List.mapM_cons, hread]
    rfl
  unfold build
  rw [hpaths]
  dsimp only
  rw [show chainFilter.project = "/p" from rfl, hfiles]
  rfl

/-- Two hops apart, `h` is met downstream of `f` and `f` upstream of `h`. -/
theorem downstream_iff_upstream_chain :
    ∃ down up w w',
      ((ofFiles [chainFile]).resolver 1).focusMap .wholeProject .downstream ⟨1, .given⟩ "a.py::f"
        (.start .never) = (.ok down, w) ∧
      ((ofFiles [chainFile]).resolver 1).focusMap .wholeProject .upstream ⟨4, .given⟩ "a.py::h"
        (.start .never) = (.ok up, w') ∧
      "a.py::h" ∈ down.keys ∧ "a.py::f" ∈ up.keys := by
  obtain ⟨down, up, w, w', hdown, hup, hdual⟩ := downstream_iff_upstream build_chain (le_refl 1)
    ⟨1, .given⟩ ⟨4, .given⟩ "a.py::f" "a.py::h"
  have hreached : "a.py::h" ∈ down.keys := by
    rw [mem_keys_focusMap hdown]
    refine .inr (.inr ⟨rfl, 2, ?_⟩)
    have hf : PathTo ((ofFiles [chainFile]).resolver 1).callees ["a.py::f"] [] 0 "a.py::f" :=
      .start (List.mem_singleton_self _)
    have hg : PathTo ((ofFiles [chainFile]).resolver 1).callees ["a.py::f"] [] 1 "a.py::g" :=
      .step hf rfl (by decide +kernel) List.not_mem_nil
    exact .step hg rfl (by decide +kernel) List.not_mem_nil
  exact ⟨down, up, w, w', hdown, hup, hreached, hdual.1 hreached⟩

end ProjectIndex

end CallAtlas
