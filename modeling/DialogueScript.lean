import DialogueScript.Artifact.Reader
import DialogueScript.Artifact.Writer
import DialogueScript.Command.Run
import DialogueScript.Compile.Directory
import DialogueScript.Main
import DialogueScript.Proofs.ArtifactText
import DialogueScript.Proofs.CompiledGraphs
import DialogueScript.Proofs.ConceptNames
import DialogueScript.Proofs.FailurePolicies
import DialogueScript.Proofs.LoweredContent
import DialogueScript.Proofs.PatternExpressions
import DialogueScript.Proofs.PatternGroups
import DialogueScript.Proofs.PrintedScripts
import DialogueScript.Proofs.QuotedReplies
import DialogueScript.Proofs.RebuildSoundness
import DialogueScript.Proofs.RepeatedRuns
import DialogueScript.Proofs.TopicPolicies
import DialogueScript.Proofs.RebuildAnswers
import DialogueScript.Proofs.CompiledScripts
import DialogueScript.Proofs.EnoughIdentifiers
import DialogueScript.Proofs.SourceErrors
import DialogueScript.Proofs.WordWildcards
import DialogueScript.Proofs.ResolvedReplies
import DialogueScript.Proofs.AbsentPieces
import DialogueScript.Proofs.MergeLaws
import DialogueScript.Proofs.MergeOrder
import DialogueScript.Proofs.LinePlaces
import DialogueScript.Proofs.StableIdentifiers
import DialogueScript.Proofs.CanonicalMarks
import DialogueScript.Proofs.ScriptLayout
import DialogueScript.Proofs.PatternFaults
import DialogueScript.Proofs.RememberedAnswers
import DialogueScript.Proofs.SynonymOrder
import DialogueScript.Proofs.OptionSpellings
