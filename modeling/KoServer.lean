import KoServer.Lib.KeyedList
import KoServer.Proofs.Crypto
import KoServer.Proofs.Packet
import KoServer.Proofs.Frames
import KoServer.Proofs.FrameRoundTrip
import KoServer.Proofs.Inventory
import KoServer.Proofs.ItemMove
import KoServer.Proofs.ItemEquip
import KoServer.Proofs.NpcTrade
import KoServer.Proofs.Warehouse
import KoServer.Proofs.WarehouseStore
import KoServer.Proofs.Merchant
import KoServer.Proofs.TradeSteps
import KoServer.Proofs.Party
import KoServer.Proofs.PartyIdentity
import KoServer.Proofs.PartyLead
import KoServer.Proofs.TradeCancel
import KoServer.Proofs.TradeDelivery
import KoServer.Proofs.TradeGoesThrough
import KoServer.Proofs.BuyingMerchant
import KoServer.Lib.Sorting
import KoServer.Proofs.MerchantStock
import KoServer.Spec.Shop
import KoServer.Spec.ClanStorage
import KoServer.Spec.GuildBank
import KoServer.Proofs.ClanStorage
import KoServer.Proofs.GuildBank
import KoServer.Lib.WriteBehind
import KoServer.Proofs.GuildBankRows
import KoServer.Spec.ClanWarehouse
import KoServer.Proofs.ClanWithdraw
import KoServer.Lib.LazyCache
import KoServer.Proofs.ClanLoading
import KoServer.Proofs.ShopGoods
import KoServer.Proofs.NpcBuy
import KoServer.Spec.Letter
import KoServer.Proofs.Letter
import KoServer.Spec.ItemUpgrade
import KoServer.Lib.Spend
import KoServer.Proofs.ItemUpgrade
import KoServer.Spec.BagItems
import KoServer.Spec.Crafting
import KoServer.Proofs.BagItems
import KoServer.Proofs.Crafting
import KoServer.Spec.ItemSeal
import KoServer.Proofs.ItemSeal
import KoServer.Spec.Level
import KoServer.Proofs.Level
import KoServer.Proofs.Points
import KoServer.Lib.Rows
import KoServer.Spec.Knights
import KoServer.Proofs.ClanMembers
import KoServer.Proofs.ClanRanks
import KoServer.Lib.Grouping
import KoServer.Spec.Alliance
import KoServer.Proofs.Alliance
import KoServer.Proofs.Donation
import KoServer.Proofs.GoldSpend
import KoServer.Proofs.ItemGet
import KoServer.Proofs.Lottery
import KoServer.Proofs.GoldCap
import KoServer.Proofs.Treasury
import KoServer.Proofs.Election
import KoServer.Proofs.TradeEnd
import KoServer.Proofs.SignUp
import KoServer.Spec.TempleRooms
import KoServer.Spec.TempleTick
import KoServer.Proofs.TempleLife
import KoServer.Proofs.TempleSeats
import KoServer.Proofs.TempleReward
import KoServer.Proofs.TempleCourse
import KoServer.Spec.MonsterStone
import KoServer.Proofs.MonsterStone
import KoServer.Spec.RegionGrid
import KoServer.Proofs.RegionGrid
import KoServer.Spec.VipWarehouse
import KoServer.Proofs.VipWarehouse
import KoServer.Proofs.VipPin
import KoServer.Proofs.VipTransfer
import KoServer.Spec.SessionTable
import KoServer.Proofs.SessionTable
import KoServer.Spec.CharacterSeal
import KoServer.Proofs.CharacterSeal
import KoServer.Proofs.SealRoundTrip
import KoServer.Spec.Quest
import KoServer.Proofs.Quest
import KoServer.Spec.Rental
import KoServer.Proofs.Rental
import KoServer.Proofs.RentalHistory
import KoServer.Proofs.KnightCash
import KoServer.Spec.KnightCash
import KoServer.Spec.PusRefund
import KoServer.Proofs.PusRefund
import KoServer.Spec.Challenge
import KoServer.Proofs.Challenge
import KoServer.Proofs.ChallengeSteps
import KoServer.Spec.Buffs
import KoServer.Proofs.Buffs
import KoServer.Lib.Blocks
import KoServer.Proofs.RoomAssignment
import KoServer.Lib.Calendar
import KoServer.Lib.Phases
import KoServer.Spec.ElectionTerm
import KoServer.Proofs.ElectionTerm
import KoServer.Lib.AStar
import KoServer.Spec.Pathfind
import KoServer.Proofs.Pathfind
import KoServer.Proofs.Waypoints
import KoServer.Lib.Turns
import KoServer.Spec.ItemRouting
import KoServer.Proofs.ItemRouting
import KoServer.Lib.Windows
import KoServer.Spec.RateLimiter
import KoServer.Proofs.RateLimiter
import KoServer.Proofs.ExpLoss
import KoServer.Spec.PartyCost
import KoServer.Proofs.GiveItem
import KoServer.Proofs.PartyCost
import KoServer.Spec.ExpSeal
import KoServer.Proofs.ExpSeal
import KoServer.Proofs.TwoHanded
import KoServer.Proofs.PartyCommand
import KoServer.Spec.ChatRoom
import KoServer.Proofs.ChatRoom
import KoServer.Spec.Loyalty
import KoServer.Proofs.Loyalty
import KoServer.Proofs.VaultKeys
import KoServer.Spec.SavedMagic
import KoServer.Proofs.SavedMagic
import KoServer.Lib.SaturatingSum
import KoServer.Spec.CombatSnapshot
import KoServer.Proofs.CombatSnapshot
import KoServer.Lib.Feistel
import KoServer.Spec.TblCipher
import KoServer.Proofs.TblCipher
import KoServer.Lib.Wire
import KoServer.Spec.TblTable
import KoServer.Proofs.TblTable
import KoServer.Spec.TblAppend
import KoServer.Proofs.TblAppend
import KoServer.Spec.SmdFile
import KoServer.Proofs.SmdFile
import KoServer.Spec.War
import KoServer.Spec.Login
import KoServer.Proofs.War
import KoServer.Proofs.WarCourse
import KoServer.Proofs.WarBanish
import KoServer.Proofs.WarNations
import KoServer.Lib.Exclusive
import KoServer.Proofs.Login
import KoServer.Proofs.LoginNames
import KoServer.Proofs.LoginKicked
import KoServer.Proofs.LoginAccounts
