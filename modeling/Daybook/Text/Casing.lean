import Daybook.Text.Table

/-!
# Lower case and case folding

* `lower`: the lower-case form of a text.  A capital sigma at the end of a word becomes a final
  sigma, and a dotted capital I becomes two characters.
* `caseFold`: the form in which texts that differ only by case are equal.  It works on each
  character by itself; some characters fold to two or three.
-/

namespace Daybook.Text

/-- Rows `first, last, step, image of first` of the lower-case map beyond ASCII: every `step`-th
character of the range moves by the same distance. -/
def lowerRows : PackedTable where
  bits := 21
  width := 4
  rows := 180
  words := #[
    0x998000080026c00132000808000080025c001000007c000004001bc000d800070000004001ac000c0,
    0xbd000008002fa001790007f800004002f000178000a5800008002ec0014a0009d0000080028e00139,
    0xc40000040030e001870012a0000040030c00186000c18000080030800182001298000040030200181,
    0x12c8000040031e0018f000ee8000040031c0018e000c6000004003160018b0012b0000040031400189,
    0x1318000040032800194001300000040032600193000c900000400322001910012d8000040032000190,
    0x137800004003380019c000cc8000040033000198001340000040032e00197001348000040032c00196,
    0x1400000040034c001a6000d080000800348001a00013a8000040033e0019f001390000040033a0019d,
    0x1440000040035c001ae000d680000400358001ac0014180000400352001a9000d40000040034e001a7,
    0x1490000040036e001b7000da0000080036a001b30014500000400364001b1000d80000040035e001af,
    0xe30000040038a001c5000e300000400388001c4000de80000400378001bc000dc80000400370001b8,
    0xe6000008003b6001cb000e600000400394001ca000e480000400390001c8000e48000040038e001c7,
    0xca800004003ec001f6000f9800008003e8001f2000f9800004003e2001f1000ef800008003dc001de,
    0x1118000080046400222000cf0000040044000220000fc8000080043c001f8000df800004003ee001f7,
    0x16330000040047c0023e000cd0000040047a0023d0011e000004004760023b01632800004004740023a,
    0x1460000040048a00245001448000040048800244000c00000040048600243001210000040048200241,
    0x1f9800004006fe0037f001bb800004006ec00376001b8800008006e400370001238000080049c00246,
    0x1e68000040071e0038e001e6000004007180038c001d68000040071400388001d60000040070c00386,
    0x1ec800008007dc003d8001eb8000040079e003cf001e180000400756003a3001d88000040074200391,
    0x1fd800004007f4003fa001f9000004007f2003f9001fc000004007ee003f7001dc000004007e8003f4,
    0x2308000080090000460002180000040085e00410002280000040081e00400001bd800004007fe003fd,
    0x26880000800a5c004d0002610000080099a004c10026780000400980004c0002458000080097c0048a,
    0x16968000040219a010cd016938000040218e010c7016800000040218a010a0002b080000400aac00531,
    0x87e8000040397e01cbd008680000040397401c90009fc000004027ea013f0055b8000004027de013a0,
    0xf8000000403e1e01f0800f5080000803dfc01ea00006f80000403d3c01e9e00f0080000803d2801e00,
    0xfa000000403e9a01f4800f9800000403e7e01f3800f9000000403e5e01f2800f8800000403e3a01f18,
    0xfc800000403f3e01f9800fc000000403f1e01f8800fb000000403ede01f6800fa880000803ebe01f59,
    0xfd980000403f7801fbc00fb800000403f7601fba00fd800000403f7201fb800fd000000403f5e01fa8,
    0xfbb00000403fb601fda00fe800000403fb201fd800fe180000403f9801fcc00fb900000403f9601fc8,
    0xfbc00000403ff201ff800ff280000403fd801fec00fbd00000403fd601fea00ff000000403fd201fe8,
    0x35800004042540212a001e48000040424c0212600ff980000403ff801ffc00fbe00000403ff601ffa,
    0x10c20000040430602183010b8000004042de02160010a7000004042640213200072800004042560212b,
    0x135800004058c402c6201630800004058c002c60016180000040585e02c00012680000040499e024b6,
    0x128800004058da02c6d01634000008058d602c670013e800004058c802c6400ebe800004058c602c63,
    0x1639800004058e402c7200129000004058e002c7000128000004058de02c6f00138800004058dc02c6e,
    0x1676000008059da02ceb01640800008059c402c800011f800004058fe02c7e0163b000004058ea02c75,
    0x539180000814e5c0a7220534080000814d340a6800532080000814cd80a64001679800004059e402cf2,
    0x53bf80000814f0c0a77e00ebc80000414efa0a77d053bd00000814ef60a7790539980000814edc0a732,
    0x53cb80000814f500a796053c880000814f240a7900013280000414f1a0a78d053c600000414f160a78b,
    0x13600000414f5a0a7ad0013080000414f580a7ac0012e00000414f560a7ab0013300000414f540a7aa,
    0x14e80000414f640a7b20014380000414f620a7b10014f00000414f600a7b00013500000414f5c0a7ae,
    0x14100000414f8a0a7c5053ca00000414f880a7c4053da80000814f840a7b4055a980000414f660a7b3,
    0x53eb80000814fb00a7d6053e880000414fa00a7d0053e400000814f920a7c700ec700000414f8c0a7c6,
    0x826c000004209a6104b0082140000042084e1040007fa08000041fe740ff21053fb00000414fea0a7f5,
    0x82dd80000420b2a10594082d980000420b241058c082d180000420b141057c082cb80000420af410570,
    0xf4910000043d2421e9000b7300000042dcbe16e4008c600000042317e118a0086600000042196410c80]

/-- Rows `first, last, step, image of first` of the case-folding map beyond ASCII, for characters
that fold to a single character. -/
def foldRows : PackedTable where
  bits := 21
  width := 4
  rows := 194
  words := #[
    0x808000080025c001000007c000004001bc000d800070000004001ac000c0001de0000040016a000b5,
    0x7f800004002f000178000a5800008002ec0014a0009d0000080028e00139000998000080026c00132,
    0xc1800008003080018200129800004003020018100039800004002fe0017f000bd000008002fa00179,
    0xc6000004003160018b0012b0000040031400189000c40000040030e001870012a0000040030c00186,
    0xc900000400322001910012d80000400320001900012c8000040031e0018f000ee8000040031c0018e,
    0x1340000040032e00197001348000040032c00196001318000040032800194001300000040032600193,
    0x13a8000040033e0019f001390000040033a0019d00137800004003380019c000cc8000040033000198,
    0x14180000400352001a9000d40000040034e001a7001400000040034c001a6000d080000800348001a0,
    0x14500000400364001b1000d80000040035e001af001440000040035c001ae000d680000400358001ac,
    0xde80000400378001bc000dc80000400370001b8001490000040036e001b7000da0000080036a001b3,
    0xe480000400390001c8000e48000040038e001c7000e30000040038a001c5000e300000400388001c4,
    0xf9800004003e2001f1000ef800008003dc001de000e6000008003b6001cb000e600000400394001ca,
    0xfc8000080043c001f8000df800004003ee001f7000ca800004003ec001f6000f9800008003e8001f2,
    0x11e000004004760023b01632800004004740023a001118000080046400222000cf0000040044000220,
    0xc00000040048600243001210000040048200241016330000040047c0023e000cd0000040047a0023d,
    0x1dc8000040068a00345001238000080049c00246001460000040048a00245001448000040048800244,
    0x1d60000040070c00386001f9800004006fe0037f001bb800004006ec00376001b8800008006e400370,
    0x1d88000040074200391001e68000040071e0038e001e6000004007180038c001d68000040071400388,
    0x1d9000004007a0003d0001eb8000040079e003cf001e180000400784003c2001e180000400756003a3,
    0x1ec800008007dc003d8001e0000004007ac003d6001e3000004007aa003d5001dc000004007a2003d1,
    0x1da800004007ea003f5001dc000004007e8003f4001e0800004007e2003f1001dd000004007e0003f0,
    0x1bd800004007fe003fd001fd800004007f4003fa001f9000004007f2003f9001fc000004007ee003f7,
    0x2458000080097c0048a002308000080090000460002180000040085e00410002280000040081e00400,
    0x2b080000400aac005310026880000800a5c004d0002610000080099a004c10026780000400980004c0,
    0x9f8000004027fa013f8016968000040219a010cd016938000040218e010c7016800000040218a010a0,
    0x2208000040390801c830021f0000040390401c820021a0000040390201c81002190000040390001c80,
    0x53258000040391001c88002318000040390e01c87002250000040390c01c86002210000040390a01c85,
    0xf3080000403d3601e9b00f0080000803d2801e000087e8000040397e01cbd008680000040397401c90,
    0xf9000000403e5e01f2800f8800000403e3a01f1800f8000000403e1e01f0800f5080000803dfc01ea0,
    0xfb000000403ede01f6800fa880000803ebe01f5900fa000000403e9a01f4800f9800000403e7e01f38,
    0xfb900000403f9601fc8001dc80000403f7c01fbe00fb800000403f7601fba00fd800000403f7201fb8,
    0xfbd00000403fd601fea00ff000000403fd201fe800fbb00000403fb601fda00fe800000403fb201fd8,
    0x1e48000040424c0212600fbe00000403ff601ffa00fbc00000403ff201ff800ff280000403fd801fec,
    0x10b8000004042de02160010a7000004042640213200072800004042560212b00035800004042540212a,
    0x1630800004058c002c60016180000040585e02c00012680000040499e024b6010c20000040430602183,
    0x1634000008058d602c670013e800004058c802c6400ebe800004058c602c6300135800004058c402c62,
    0x129000004058e002c7000128000004058de02c6f00138800004058dc02c6e00128800004058da02c6d,
    0x1640800008059c402c800011f800004058fe02c7e0163b000004058ea02c7501639800004058e402c72,
    0x534080000814d340a6800532080000814cd80a64001679800004059e402cf201676000008059da02ceb,
    0xebc80000414efa0a77d053bd00000814ef60a7790539980000814edc0a7320539180000814e5c0a722,
    0x53c880000814f240a7900013280000414f1a0a78d053c600000414f160a78b053bf80000814f0c0a77e,
    0x13080000414f580a7ac0012e00000414f560a7ab0013300000414f540a7aa053cb80000814f500a796,
    0x14380000414f620a7b10014f00000414f600a7b00013500000414f5c0a7ae0013600000414f5a0a7ad,
    0x53ca00000414f880a7c4053da80000814f840a7b4055a980000414f660a7b30014e80000414f640a7b2,
    0x53e880000414fa00a7d0053e400000814f920a7c700ec700000414f8c0a7c60014100000414f8a0a7c5,
    0x7fa08000041fe740ff21009d00000041577e0ab70053fb00000414fea0a7f5053eb80000814fb00a7d6,
    0x82d180000420b141057c082cb80000420af4105700826c000004209a6104b0082140000042084e10400,
    0x8c600000042317e118a0086600000042196410c80082dd80000420b2a10594082d980000420b241058c,
    0xf4910000043d2421e9000b7300000042dcbe16e40]

/-- Rows `character, image` of the characters that fold to two or three characters; a zero fills an
image of two. -/
def foldExpansions : PackedTable where
  bits := 21
  width := 4
  rows := 104
  words := #[
    0xc30000d4001f0000000001b8005780014900000000c1c000d200130000000001cc000e6000df,
    0xcc4000d001e960000000160800aca0058700180800c200078a003b000180800c200077200390,
    0xaf8000c201e9a00000000c28000f201e9900000000c28000ee01e9800000000c20000e801e97,
    0x180800c4c0078a01f5400180000c4c0078a01f5200000000c4c0078a01f50000000001cc000e601e9e,
    0xee403e0401f8200000000ee403e0201f8100000000ee403e0001f80001a1000c4c0078a01f56,
    0xee403e0c01f8600000000ee403e0a01f8500000000ee403e0801f8400000000ee403e0601f83,
    0xee403e0401f8a00000000ee403e0201f8900000000ee403e0001f8800000000ee403e0e01f87,
    0xee403e0c01f8e00000000ee403e0a01f8d00000000ee403e0801f8c00000000ee403e0601f8b,
    0xee403e4401f9200000000ee403e4201f9100000000ee403e4001f9000000000ee403e0e01f8f,
    0xee403e4c01f9600000000ee403e4a01f9500000000ee403e4801f9400000000ee403e4601f93,
    0xee403e4401f9a00000000ee403e4201f9900000000ee403e4001f9800000000ee403e4e01f97,
    0xee403e4c01f9e00000000ee403e4a01f9d00000000ee403e4801f9c00000000ee403e4601f9b,
    0xee403ec401fa200000000ee403ec201fa100000000ee403ec001fa000000000ee403e4e01f9f,
    0xee403ecc01fa600000000ee403eca01fa500000000ee403ec801fa400000000ee403ec601fa3,
    0xee403ec401faa00000000ee403ec201fa900000000ee403ec001fa800000000ee403ece01fa7,
    0xee403ecc01fae00000000ee403eca01fad00000000ee403ec801fac00000000ee403ec601fab,
    0xee40075801fb400000000ee40076201fb300000000ee403ee001fb200000000ee403ece01faf,
    0xee403ee801fc200000000ee40076201fbc001dc800d080076201fb700000000d080076201fb6,
    0x1dc800d080076e01fc700000000d080076e01fc600000000ee40075c01fc400000000ee40076e01fc3,
    0xd080077201fd600180800c200077201fd300180000c200077201fd200000000ee40076e01fcc,
    0xc4c0078201fe400180800c200078a01fe300180000c200078a01fe2001a1000c200077201fd7,
    0xee40079201ff300000000ee403ef801ff2001a1000c200078a01fe700000000d080078a01fe6,
    0xee40079201ffc001dc800d080079201ff700000000d080079201ff600000000ee40079c01ff4,
    0x34800198000cc0fb03000000001b0000cc0fb02000000001a4000cc0fb0100000000198000cc0fb00,
    0x15d800ae80fb13000000001d0000e60fb06000000001d0000e60fb0500036000198000cc0fb04,
    0x15b400ae80fb17000000015d800afc0fb16000000015ac00ae80fb150000000159400ae80fb14]

/-- Ranges of the characters that count as cased next to a capital sigma. -/
def casedRanges : PackedTable where
  bits := 21
  width := 2
  rows := 149
  words := #[
    0xdd0003e0001ec000d80006b00030000174000ba0005a8002d400154000aa0003d000184000b400041,
    0x1c3000e18006fe0037f001be800dec006ee00376001b9800dc00055e00295001498007100037e001bc,
    0x2c400158000aac005310029780122800902003f7001fa800e8c007420038e001c6000e300071400388,
    0xe44007200027fa013f8009fa804e80021fe010fd0087d0043400219a010cd0086380431c0218a010a0,
    0xfa2807c8003e3a01f1800f8a80780003b3401d7900ebb8075ac03a5601d0000e5f8072f40397401c90,
    0xfde007ed803f6801f8000fbe807d7c03eba01f5d00fad807d6c03eb201f5900fab807d4003e9a01f48,
    0xffe007fd803fe801ff200ff6007f8003fb601fd600fe9807f4003f9801fc600fe2007f0803f7c01fbe,
    0x10940084a00424c02126010920084900423a021190108a808454042260210a0108380841c0420402102,
    0x10c200860c042fe02160010a700853804292021450109f8084f004272021390109a0084bc0425a0212a,
    0x169680b4b405a4e02d270169280b400059e602cf20167700b3ac059c802c7e0163d80b000049d2024b6,
    0x53e9829f4c14fa20a7d0053e5029e4014f1c0a78b053c3829dc414ede0a7220534d829a0014cda0a640,
    0x7d8b83ec4c1f60c0fb00055df82adc0156d00ab60055ad02acc014ff40a7fa053fb029fd414fb20a7d5,
    0x82c904163020b141057c082bd0415c0209f6104d8082698412c02089e1040007fad03fd041fe740ff21,
    0x8c6f846280219e410cc00865904320020b78105bb082dc8416cc20b62105a3082d084165c20b2a10594,
    0xea5c8752b83a9581d4a90ea530752943a9441d4a20ea4f8752783a9381d4560ea2a0750002dcfe16e40,
    0xea9f0754ec3aa721d51e0ea8e0754583aa281d50d0ea8507541c3aa0a1d4c50ea618752f43a9761d4bb,
    0xeb8a075bf03adf41d6dc0eb6d075b083ad801d6a80eb528755483aaa01d54a0eaa30755183aa881d540,
    0xef84877c003af961d7c40ebe1075ea83af501d78a0ebc4075dc03aedc1d7500eba7075cd83ae681d716,
    0x3e3121f1700f8b487c5403e2921f1300f4a187a4003be3c1df0b]

/-- Ranges of the characters that are passed over in the search for a cased neighbour. -/
def ignorableRanges : PackedTable where
  bits := 21
  width := 2
  rows := 427
  words := #[
    0x578002bc0015a000ad000540002a0000c0000600002f000178000740003a000170000b80004e00027,
    0x24480120c0070e00387001c2800e10006f40037a001ba800dd0006de002b00005c0002dc00168000b4,
    0x2fa0017d000b8e005c7002e280171000b84005c1002df8016fc00b7a00591002af80157c00ab200559,
    0x374001b7c00dba006d6003380019c000cbe0064b0032000190000c380061c0030d00184000c0a00600,
    0x3fe801ff400ff4007fa003fa801fac00f60007a6003a5001cc000e220071100387801c3c00dda006ea,
    0x49e0024f0012740093a004810023240113e008980044880224001110008880042d8021640105a00816,
    0x4e200270401378009bc004c0802604012e200971004b1802588012ae00951004a68025340129000941,
    0x52680292c0149000a47005210029040147800a3c00501002804013fc009fe004f18027880139a009cd,
    0x566802b340159000ac700562802b040157800abc00541002a04014ea00a75005388029c0014a200a51,
    0x5ab002d540169a00b4d005a2002d040167e00b3f0059e002cf00160200b010057f802be8015c600ae2,
    0x6200030f80187800c3c006020030100180000c00005e6802f340178000bc0005c1002e08016c600b62,
    0x6630033180197e00cbf0065e0032f00190200c8100631803188018ac00c55006268031280189000c46,
    0x6c080360401ac600d62006a680353401a8800d410069e0034ec01a0200d00006718033880199a00ccc,
    0x75e003ad001d6200eb10072700391801c7400e34007188038c401bac00dd6006ea00374801b9400dca,
    0x7c2003e0001efc00f710079c803ce401e6e00f370079a803cd401e3200f1800766803b2001d8c00ec6,
    0x81f0040f402074010390081b8040c8020600102d007e3003f1801f7800f99007cb803e3401f0e00f86,
    0x87e0043f00213a0109d008468042340210c0108500841004208020e80107100830004178020b201058,
    0xbe3005f1802f7a017b700bda805ed002ee60177200ba9805d4802e660173200b8a005c48026be0135d,
    0xc9100648003152018a900c43006214030860184300c0780602c02fba017dd00beb805f5c02fa6017c9,
    0xd30006980034bc01a5800d2b0069580343601a1b00d0c00685c032760193900c990064c80325001927,
    0xd9a006cd00360601b0000d67006ac00354e01aa700d3f8069fc034f801a7300d36006994034c401a62,
    0xdd6806eac0375201ba800dd2806e880370201b8000db9806dac0368401b4200d9e006cf00367401b36,
    0xe69007340038fa01c7800e1b8070d80386601c2c00df8806fbc037da01bed00df4806fa0037cc01be6,
    0xeff80766c03af001d7800eb50074b0039f201cf800e7a0073d0039da01ced00e74007388039c001cd4,
    0x100c8080600401e0200b00fff007ff403fde01fed00fef807f7403f9e01fcd00fe0807efc03f7a01fbd,
    0x104e008240040fe0207f010388081c4040de02066010320081800405c0202a0101380809c0404802024,
    0x180280c01405c5e02e2f016ff80b78005afe02d7f016b780b5bc059e202cef0163e80b1f0041e0020d0,
    0x5306029830149fa0a4f80500a828054061fc030fc0184f00c264060760303b0181a80c0c40605a0302a,
    0x53c5029e2014ee00a77005390829c0014de20a6f00534f829a7014cfe0a67f0533e8299d014ce40a66f,
    0x546282a310150580a82c0541302a094150160a80b0540302a018150040a802053fc829fe014fe80a7f2,
    0x54de82a6f0153720a9b6054d982a6cc153040a980054a882a51c1525a0a9260547f82a3fc151e20a8e0,
    0x553802a9c0154980aa4c0552182a90c1546c0aa350551902a8c41545c0aa29054f302a7941539e0a9cf,
    0x557682abb0155ba0aadd0556082ab041557e0aabe0555c02aadc155680aab20555802aac0154f80aa7c,
    0x7d8f03ec78157da0abed055f402afa0157ca0abe5055b582ada4156be0ab5b0557b02abd8155e80aaf3,
    0x7f8383fc1c1fdfe0feff07f2a83f9541fca40fe5207f1783f8801fc260fe1307f0783f8001f7840fbb2,
    0x7ffd83ffe41ffc60ffe307fcf83fe781fee00ff7007fa003fd001fe7c0ff3e07f8d03fc681fe1c0ff0e,
    0x85030428142140610a01083dd041ec820f6010787083c2841e00206f41037608170040b80203fa101fd,
    0x87c2843e0821ea010f4608756043aac21a4e10d2408573042b942147e10a3f0851d0428e02141e10a0c,
    0x885e8442f422174110b90885b0442cc221021107f0883a0441cc220e011070088230440e02200211001,
    0x88df0446d82230211180088b98445cc222681112d0889584449c22204111000886684433422184110c2,
    0x8975044b8c225be112df0891f0448f82246e112360891a0448d0224621122f088e784473c22398111c9,
    0x8a23045118228881144208a1f8450e0226e811370089b6044d9822680113400899e044cec2260211300,
    0x8ae00456fc22b7a115bc08ada8456c822986114c208a600452fc22974114ba08a5c0452cc228bc1145e,
    0x8b5b845adc22d6a116b008b56845ab422d56116ab08b200458fc22c7a1163d08b1d0458cc22bba115dc,
    0x8ca184650c2327c1193e08c9e0464ec230741183908c1b8460bc22e561172708b92845c8822e3e1171d,
    0x8d2b0469442348e11a4708d1f0468ec2347011a3308d05046804233c0119e008ced846768233ae119d4,
    0x8e580472a82394e11c9208e1f8470fc2387a11c3808e1b0470c02353211a9808d4b046a28234b611a59,
    0x8ec884764023a8e11d4708ea28474fc23a7a11d3c08e9d0474e823a6c11d3108e5b0472d42396611cb2,
    0xb7a785bd3c2d68616b400b59b05acc02d5e816af009a1c04d0c023de811ef308ecb84765c23b2a11d95,
    0xde5186f2803793c1bc9d0d7ff06bff435ff61aff50d7f986bfc02dfc816fe30b7f085bf802df3e16f8f,
    0xed1b0768003a4881d2420e8d68746a83a3161d1850e8c10745cc3a2d21d1670e7a3073cc039e5a1cf00,
    0xf01087806c3c0301e0080f0030780003b55e1daa10ed4f876a6c3b5081da840ed3a8769d43b4d81da3b,
    0xf9ff87cfec3d2961e9440f46b07a3403c5de1e2ec0f157078ab83c27a1e1300f0150780983c0481e023,
    0x1c03dee01007003fb80081c0002e0001]

/-- The image of a code point under a table of rows `first, last, step, image of first`; other code
points stay. -/
def shiftBy (rows : PackedTable) (code : Nat) : Nat :=
  match rows.rowOf? code with
  | none => code
  | some row =>
    let first := rows.cell row 0
    if code ≤ rows.cell row 1 ∧ (code - first) % rows.cell row 2 = 0 then
      rows.cell row 3 + (code - first)
    else code

/-- The lower-case form of a character that does not depend on its neighbours. -/
def lowerChar (c : Char) : List Char :=
  if c.toNat < 128 then [c.toLower]
  else if c = 'İ' then ['i', '\u0307']
  else [Char.ofNat (shiftBy lowerRows c.toNat)]

/-- Whether the first character of a text that is not passed over is cased. -/
def facesCased (cs : List Char) : Bool :=
  match cs.dropWhile fun c => ignorableRanges.covers c.toNat with
  | [] => false
  | c :: _ => casedRanges.covers c.toNat

/-- The lower-case form of a text whose characters `before`, the nearest first, already went by. -/
def lowerAfter (before : List Char) : List Char → List Char
  | [] => []
  | c :: rest =>
    let image :=
      if c = 'Σ' then if facesCased before && !facesCased rest then ['ς'] else ['σ']
      else lowerChar c
    image ++ lowerAfter (c :: before) rest

/-- The lower-case form of a text. -/
def lower (s : String) : String :=
  String.ofList (lowerAfter [] s.toList)

/-- The folded form of a character. -/
def foldChar (c : Char) : List Char :=
  if c.toNat < 128 then [c.toLower]
  else
    match foldExpansions.rowOf? c.toNat with
    | none => [Char.ofNat (shiftBy foldRows c.toNat)]
    | some row =>
      if foldExpansions.cell row 0 = c.toNat then
        ([1, 2, 3].map (foldExpansions.cell row)).filterMap fun n =>
          if n = 0 then none else some (Char.ofNat n)
      else [Char.ofNat (shiftBy foldRows c.toNat)]

/-- The form of a text in which case makes no difference. -/
def caseFold (s : String) : String :=
  String.ofList (s.toList.flatMap foldChar)

end Daybook.Text
