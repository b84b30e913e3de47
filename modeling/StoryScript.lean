import StoryScript.Main
import StoryScript.Proofs.Layout
import StoryScript.Proofs.RoundTrip
import StoryScript.Proofs.Renumbering
import StoryScript.Proofs.NodeByNode
import StoryScript.Proofs.ScopeInForce
import StoryScript.Proofs.Links
import StoryScript.Proofs.LineEndings
import StoryScript.Proofs.JobEffects
import StoryScript.Proofs.Sessions
import StoryScript.Proofs.Dispatches
import StoryScript.Proofs.Headers
import StoryScript.Proofs.ChoiceLines
import StoryScript.Proofs.Gaps
import StoryScript.Proofs.OptionGrammar
import StoryScript.Proofs.Loops
