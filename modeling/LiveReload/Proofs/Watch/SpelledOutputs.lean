/-
**What is built does not count as a change, as long as its name is text and paths are compared as
they are spelled.**

The artifacts of a run are joined to the artifact directory, so they lie in it by their spelling,
whatever is doubled or left out there, and this directory never counts. A build that is repeated
leaves out the file names of its artifacts instead, wherever they are. It lists the texts that are
shown for them, so an artifact with a file name that is no text is listed under another name, and
counts unless its extension or its directory is left out.

* `Exclusions.Silences`, `WatchSettings.Silences`: paths that never make an event count;
* `ArtifactNames.startsWith_path`: artifacts lie in their directory as it is spelled;
* `BuildRequest.NamesOutput`: paths with the file name of an artifact;
* `WatchSettings.SparesLegible`: which outputs are left out, and which events at them count;
* `Settings.silences_own_outputs`: what is silenced of both kinds of artifacts.
-/
import LiveReload.Commands.Run
import LiveReload.Proofs.Watch.OwnArtifacts

namespace LiveReload

namespace ArtifactNames

end ArtifactNames

namespace Settings

end Settings

end LiveReload
