import FunPvp.Accounts.RBAC
import FunPvp.ArenaTeams.SoloTeam
import FunPvp.Auctions.Gold
import FunPvp.Auth.HonestLogin
import FunPvp.Auth.ReadHandler
import FunPvp.Battleground.AverageWait
import FunPvp.Battleground.BattlegroundPlayers
import FunPvp.Battleground.Challenge
import FunPvp.Battleground.FillPlayers
import FunPvp.Battleground.MatchResults
import FunPvp.Battleground.RatedPairing
import FunPvp.Battleground.SameFaction
import FunPvp.Battleground.SaveTeams
import FunPvp.Battleground.Scheduler
import FunPvp.Battleground.TempIds
import FunPvp.Calendar.Ids
import FunPvp.Chat.LinkFilter
import FunPvp.Chat.Membership
import FunPvp.Combat.NextVictim
import FunPvp.Conditions.Disjunction
import FunPvp.Database.Redundancy
import FunPvp.DungeonFinding.BestCompatible
import FunPvp.DungeonFinding.RoleAssignment
import FunPvp.Events.GameEventMgr
import FunPvp.Grids.AreaVisit
import FunPvp.Groups.CountTheRoll
import FunPvp.Groups.LeavingRolls
import FunPvp.Groups.Looter
import FunPvp.Groups.Membership
import FunPvp.Groups.StorageIds
import FunPvp.Guilds.Authority
import FunPvp.Guilds.BankStock
import FunPvp.Guilds.DailyLimit
import FunPvp.Guilds.LogRing
import FunPvp.Instances.BindLinks
import FunPvp.Instances.ResetQueue
import FunPvp.Items.BuyBack
import FunPvp.Items.Transmogrification
import FunPvp.Loot.AutoStore
import FunPvp.Loot.LootView
import FunPvp.Loot.ReferenceCircles
import FunPvp.Maps.InstanceIds
import FunPvp.Movement.GeneratorStack
import FunPvp.Network.WorldSocketFraming
import FunPvp.Network.WorldSocketSending
import FunPvp.Packets.UpdateMask
import FunPvp.Pools.SpawnLimit
import FunPvp.Reputation.FactionCounts
import FunPvp.Spells.CategoryCooldowns
import FunPvp.Store.Coins
import FunPvp.Trading.Windows
import FunPvp.Utilities.Agenda
import FunPvp.Utilities.Utf8Strings
import FunPvp.Vehicles.Seats
