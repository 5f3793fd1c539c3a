import FragmentImports.Files.Tree
import FragmentImports.Settings.Reader

namespace FragmentImports

inductive SettingsFault where
  | unreadable (fault : FileFault)
  | invalid (path : String) (issues : List Settings.Issue)
  deriving DecidableEq, Repr

def invalidSettings (path : String) (issues : List Settings.Issue) : String :=
  "Invalid configuration in " ++ path ++ ": " ++ Settings.issuesHeading issues

def FileTree.loadSettings (tree : FileTree) (path : String) : Except SettingsFault Settings := do
  let text ← (tree.readText (Path.ofString path).render).mapError .unreadable
  (Settings.ofText text).mapError (.invalid path)

end FragmentImports
