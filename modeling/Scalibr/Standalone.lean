import Scalibr.Config
import Scalibr.Inventory

/-!
`standalone.Run`: the standalone extractors run one after the other, in configuration
order, against one scan root. Before each extractor the loop checks the context; a
cancelled context ends the run with the context's error and nothing else. An extractor
whose `Extract` fails gets a failed status and contributes nothing; the items of one that
succeeds are tagged with it and collected.

`Extract` returns pointers (`[]*extractor.Inventory`) and the loop tags each item through
its pointer, so the items are addresses into a heap here: an item that two extractors
return is one item, and the later tag overwrites the earlier one.
-/

namespace Scalibr.Standalone

open Go

structure Config where
  extractors : List StandaloneExtractor
  scanRoot : ScanRoot

/-- What `standalone.Run` observes of the world: `ctx.Err()` before the `k`-th extractor,
the pointers and error that the `k`-th `Extract` call returns (Go returns both), the item
behind each pointer as `Extract` left it, and the path helpers `ScanRoot.IsVirtual` and
`filepath.Abs`. -/
structure World where
  ctxErr : Nat → Option GoError
  extract : Nat → StandaloneExtractor → ScanRoot → List Nat × Option GoError
  item : Nat → Package
  isVirtual : ScanRoot → Bool
  filepathAbs : String → Except GoError String

/-- `i.Extractor = extractor`: the item records the extractor that produced it, in the
field `extractor.Package` names `Plugins`. -/
def tag (e : StandaloneExtractor) (pkg : Package) : Package :=
  { pkg with plugins := [e.name] }

/-- `for _, i := range inv { i.Extractor = extractor }`, one write through each pointer. -/
def tagItems (e : StandaloneExtractor) (inv : List Nat) (heap : Nat → Package) :
    Nat → Package :=
  inv.foldl (fun heap p => Function.update heap p (tag e (heap p))) heap

/-- The loop over `config.Extractors` from position `k`, with the pointers and statuses
collected so far and the items as the loop has written them. What the caller reads through
the returned pointers is the items as they are when the loop ends. -/
def runLoop (w : World) (scanInput : ScanRoot) :
    Nat → List StandaloneExtractor → List Nat → List Status → (Nat → Package) →
      Except GoError (List Package × List Status)
  | _, [], inventories, statuses, heap => .ok (inventories.map heap, statuses)
  | k, e :: es, inventories, statuses, heap =>
      match w.ctxErr k with
      | some err => .error err
      | none =>
          match w.extract k e scanInput with
          | (_, some err) =>
              runLoop w scanInput (k + 1) es inventories
                (statuses ++ [statusFromErr e.toPlugin (some err)]) heap
          | (inv, none) =>
              runLoop w scanInput (k + 1) es (inventories ++ inv)
                (statuses ++ [statusFromErr e.toPlugin none]) (tagItems e inv heap)

/-- `standalone.Run`: a non-virtual root's path is made absolute first. -/
def run (w : World) (config : Config) : Except GoError (List Package × List Status) :=
  if !w.isVirtual config.scanRoot then
    match w.filepathAbs config.scanRoot.path with
    | .error err => .error err
    | .ok p => runLoop w ⟨config.scanRoot.fs, p⟩ 0 config.extractors [] [] w.item
  else runLoop w config.scanRoot 0 config.extractors [] [] w.item

/-! ### Tags written through pointers -/

@[simp] theorem tag_tag (e e' : StandaloneExtractor) (pkg : Package) :
    tag e (tag e' pkg) = tag e pkg := rfl

/-- The loop from position `k` when the context is first seen cancelled `j` extractors
later: it returns the context's error and nothing else. -/
theorem runLoop_of_cancelled (w : World) (scanInput : ScanRoot) {err : GoError} :
    ∀ (k j : Nat) (es : List StandaloneExtractor) (inventories : List Nat)
      (statuses : List Status) (heap : Nat → Package), j < es.length →
      (∀ i < j, w.ctxErr (k + i) = none) → w.ctxErr (k + j) = some err →
      runLoop w scanInput k es inventories statuses heap = .error err
  | _, _, [], _, _, _, hj, _, _ => absurd hj (Nat.not_lt_zero _)
  | k, 0, e :: es, _, _, _, _, _, hcancel => by
      simp [runLoop, (by simpa using hcancel : w.ctxErr k = some err)]
  | k, j + 1, e :: es, inventories, statuses, heap, hj, hlive, hcancel => by
      have hk : w.ctxErr k = none := by simpa using hlive 0 (Nat.succ_pos j)
      have hrest : ∀ i < j, w.ctxErr (k + 1 + i) = none := fun i hi => by
        simpa [Nat.add_assoc, Nat.add_comm 1 i] using hlive (i + 1) (Nat.succ_lt_succ hi)
      have hcancel' : w.ctxErr (k + 1 + j) = some err := by
        simpa [Nat.add_assoc, Nat.add_comm 1 j] using hcancel
      have hj' : j < es.length := by simpa using hj
      simp only [runLoop, hk]
      rcases w.extract k e scanInput with ⟨inv, _ | _⟩ <;>
        exact runLoop_of_cancelled w scanInput (k + 1) j es _ _ _ hj' hrest hcancel'

/-- Once the context is seen cancelled before some extractor, `standalone.Run` returns the
context's error alone: no item and no status, not even those of the extractors that
finished before. -/
theorem run_of_cancelled (w : World) (config : Config) {scanInput : ScanRoot} {err : GoError}
    (hroot : (w.isVirtual config.scanRoot = true ∧ scanInput = config.scanRoot) ∨
      ∃ p, w.isVirtual config.scanRoot = false ∧ w.filepathAbs config.scanRoot.path = .ok p ∧
        scanInput = ⟨config.scanRoot.fs, p⟩)
    {j : Nat} (hj : j < config.extractors.length) (hlive : ∀ i < j, w.ctxErr i = none)
    (hcancel : w.ctxErr j = some err) : run w config = .error err := by
  have hloop := runLoop_of_cancelled w scanInput 0 j config.extractors [] [] w.item hj
    (fun i hi => by simpa using hlive i hi) (by simpa using hcancel)
  rcases hroot with ⟨hvirtual, rfl⟩ | ⟨p, hvirtual, hpath, rfl⟩
  · simpa [run, hvirtual] using hloop
  · simpa [run, hvirtual, hpath] using hloop

def packageP : Package := ⟨"p", "1.0", ["/p"], [], none⟩

def extractorOne : StandaloneExtractor := ⟨⟨"one", 0, noRequirements⟩⟩

def extractorTwo : StandaloneExtractor := ⟨⟨"two", 0, noRequirements⟩⟩

/-- A live context and a virtual root; the `k`-th extractor returns a pointer of its own,
to a copy of `packageP`, and the second one also an error. -/
def secondFails : World where
  ctxErr _ := none
  extract k _ _ := ([k], if k = 1 then some (.new "extraction failed") else none)
  item _ := packageP
  isVirtual _ := true
  filepathAbs := .ok

/-- The world of `secondFails`, with the context cancelled before the second extractor. -/
def cancelledBeforeSecond : World :=
  { secondFails with ctxErr := fun k => if k = 0 then none else some (.new "context canceled") }

theorem run_of_cancelled_on_cancelledBeforeSecond :
    run cancelledBeforeSecond ⟨[extractorOne, extractorTwo], ⟨"local", "/"⟩⟩ =
      .error (.new "context canceled") :=
  run_of_cancelled cancelledBeforeSecond _ (.inl ⟨rfl, rfl⟩) (by decide)
    (fun i hi => by simp [cancelledBeforeSecond, Nat.lt_one_iff.1 hi])
    (rfl : cancelledBeforeSecond.ctxErr 1 = some _)

end Scalibr.Standalone
