import ServiceContainer.Document
import ServiceContainer.Document.Service
import ServiceContainer.ReferenceGraph.BuildOrder

/-!
From documents to the generated class. Later documents take precedence over earlier ones.
-/

namespace ServiceContainer

namespace Container

def addParameter (c : Container) : Key × Tree → Container
  | (key, tree) => c.setParameter key.text (.ofTree tree)

def addService (c : Container) : Key × Tree → Except Failure Container
  | (key, tree) =>
    if key.text = "" then .error (.invalid .emptyServiceId)
    else (Entry.ofTree key.text tree).map (c.setEntry key.text)

def addDocument (mode : Mode) (c : Container) (tree : Tree) : Except Failure Container := do
  let doc ← Document.ofTree mode tree
  let c := (doc.parameters.getD []).foldl addParameter c
  (doc.services.getD []).foldlM addService c

def ofDocuments (mode : Mode) (trees : List Tree) : Except Failure Container :=
  trees.foldlM (addDocument mode) empty

def compile (settings : Settings) (c : Container) : Except Failure String := do
  c.checkAliases
  if settings.checkReferences then (ReferenceGraph.ofContainer c).check
  Php.containerClass settings.names c

end Container

def compileDocuments (settings : Settings) (trees : List Tree) : Except Failure String := do
  (← Container.ofDocuments settings.mode trees).compile settings

end ServiceContainer
