import FragmentImports.Distinct
import FragmentImports.ImportStatement
import FragmentImports.Usage

/-!
What a generated file imports: the symbols of the fragments that it spreads directly, one import for
every file that exports some. A fragment reached through another one comes with the file of that
other one.
-/

namespace FragmentImports

/-- A fragment that a file uses and does not define, with its registered definition. -/
structure ExternalFragment where
  name : String
  depth : Int
  onType : String
  definition : Document.Fragment
  deriving DecidableEq, Repr

structure ImportPlan where
  external : List ExternalFragment
  imports : List ImportSource
  deriving DecidableEq, Repr

abbrev ImportGroups := OrderedMap String (List String)

def ImportGroups.add (groups : ImportGroups) (entry : Registry.Entry) : ImportGroups :=
  let known := (groups.get? entry.filePath).getD []
  groups.insert entry.filePath (entry.importNames.foldl addDistinct known)

def ImportGroups.ofEntries (entries : List Registry.Entry) : ImportGroups :=
  entries.foldl ImportGroups.add .empty

def ImportGroups.sources (groups : ImportGroups) : List ImportSource :=
  groups.entries.map fun (path, names) => ⟨path, names⟩

namespace Registry

/-- The registered names of a depth map with their entries, in the order of the map. -/
def registered (registry : Registry) (depths : OrderedMap String Int) :
    List (String × Int × Entry) :=
  depths.entries.filterMap fun (name, depth) =>
    (registry.get? name).map fun entry => (name, depth, entry)

def importSources (registry : Registry) (depths : OrderedMap String Int) : List ImportSource :=
  let direct := (registry.registered depths).filter fun (_, depth, _) => depth = 0
  (ImportGroups.ofEntries (direct.map fun (_, _, entry) => entry)).sources

def plan (registry : Registry) (depths : OrderedMap String Int) : ImportPlan where
  external := (registry.registered depths).map fun (name, depth, entry) =>
    ⟨name, depth, entry.onType, entry.definition⟩
  imports := registry.importSources depths

def resolve (registry : Registry) (node : Document.Node) : ImportPlan :=
  registry.plan ((externalFragments registry node).mapValues Int.ofNat)

end Registry

def ImportPlan.statements (plan : ImportPlan) (context : ImportContext) (importer : String) :
    List String :=
  plan.imports.map (context.statement importer)

end FragmentImports
